import IndexerSettings.Log.Event

/-!
# Arguments

What a command line asks for.  Options may stand before or after the name of
the command; the same option in both places counts as it stands behind the
name.  Every other repetition is refused, as is whatever is not understood.
-/

namespace IndexerSettings

/-- The forms in which a command shows its result. -/
inductive OutputFormat
  | json
  | table
  | pretty
  | raw
  deriving DecidableEq, Repr

namespace OutputFormat

def all : List OutputFormat := [json, table, pretty, raw]

def name : OutputFormat → String
  | json => "json"
  | table => "table"
  | pretty => "pretty"
  | raw => "raw"

def ofName? (s : String) : Option OutputFormat := all.find? (·.name == s)

end OutputFormat

def Log.Format.ofName? (s : String) : Option Log.Format :=
  Log.Format.all.find? (·.name == s)

def Log.Level.ofName? (s : String) : Option Log.Level :=
  Log.Level.all.find? (·.name == s)

/-- What is to be done. -/
inductive Command
  /-- Load, check and complete the settings in a file, after some overrides. -/
  | validate (path : String) (overrides : List String)
  /-- Report the keys in a file that no field has. -/
  | checkKeys (path : String)
  /-- List all keys, or those of a section. -/
  | keys (scope : Option String)
  /-- Tell the version of the program. -/
  | version (extended : Bool)
  deriving DecidableEq, Repr

/-- A command, and how it is to show its result and to log. -/
structure Invocation where
  format : OutputFormat
  logFormat : Log.Format
  logLevel : Log.Level
  command : Command
  deriving DecidableEq, Repr

/-- What a command line comes to. -/
inductive Request
  | refused
  | help
  | version
  | run (invocation : Invocation)
  deriving DecidableEq, Repr

/-! ## Single arguments -/

/-- An argument by its form. -/
inductive Argument
  /-- Two dashes: all that follows is taken as it is. -/
  | escape
  /-- A name behind two dashes, and a value behind an equals sign. -/
  | long (name : String) (attached : Option String)
  /-- A letter behind a dash. -/
  | short (letter : Char)
  | plain (s : String)

namespace Argument

def ofText (s : String) : Argument :=
  match s.toList with
  | ['-', '-'] => escape
  | '-' :: '-' :: cs =>
    long (String.ofList (cs.takeWhile (· != '=')))
      (match cs.dropWhile (· != '=') with
        | [] => none
        | _ :: value => some (String.ofList value))
  | '-' :: c :: _ => short c
  | _ => plain s

/-- Whether an argument can be the value of the option before it. -/
def isValue (s : String) : Bool :=
  match ofText s with
  | plain _ => true
  | _ => false

end Argument

/-! ## One level of a command line -/

/-- An option with a value: its name, the values it takes, and whether it may
be repeated. -/
structure ValueOption where
  name : String
  accepts : String → Bool
  repeatable : Bool

/-- What is understood before the name of a command, or behind it. -/
structure Grammar where
  options : List ValueOption
  switches : List String
  /-- A path is taken. -/
  takesPath : Bool
  commands : List String
  /-- The version of the program can be asked for. -/
  showsVersion : Bool

/-- What has been found at a level. -/
structure Found where
  values : List (String × String) := []
  switches : List String := []
  path : Option String := none

namespace Found

def addValue (found : Found) (option : ValueOption) (value : String) :
    Option Found :=
  if !option.accepts value then none
  else if !option.repeatable && found.values.any (·.1 == option.name) then none
  else some { found with values := found.values ++ [(option.name, value)] }

def addSwitch (g : Grammar) (found : Found) (name : String) : Option Found :=
  if name ∈ g.switches ∧ name ∉ found.switches then
    some { found with switches := name :: found.switches }
  else none

def addPath (g : Grammar) (found : Found) (path : String) : Option Found :=
  if g.takesPath && found.path.isNone && !path.isEmpty then
    some { found with path := some path }
  else none

/-- The values given for an option, in order. -/
def valuesOf (found : Found) (name : String) : List String :=
  (found.values.filter (·.1 == name)).map Prod.snd

def value? (found : Found) (name : String) : Option String :=
  (found.valuesOf name).head?

end Found

/-- What the arguments of a level come to: an answer at once, all of them
understood, or the name of a command with the arguments behind it. -/
inductive Scan
  | answer (request : Request)
  | finished (found : Found)
  | command (found : Found) (name : String) (rest : List String)

/-- Arguments that are taken as they are. -/
def scanPaths (g : Grammar) (found : Found) : List String → Scan
  | [] => .finished found
  | path :: rest =>
    match found.addPath g path with
    | some found => scanPaths g found rest
    | none => .answer .refused

/-- Arguments from left to right, up to the first that settles the matter. -/
def scan (g : Grammar) (found : Found) : List String → Scan
  | [] => .finished found
  | arg :: rest =>
    match Argument.ofText arg with
    | .escape => scanPaths g found rest
    | .short letter =>
      if letter = 'h' then .answer .help
      else if letter = 'V' && g.showsVersion then .answer .version
      else .answer .refused
    | .plain s =>
      if s ∈ g.commands then .command found s rest
      else match found.addPath g s with
        | some found => scan g found rest
        | none => .answer .refused
    | .long name attached =>
      if name = "help" && attached.isNone then .answer .help
      else if name = "version" && attached.isNone && g.showsVersion then
        .answer .version
      else match g.options.find? (·.name == name), attached with
        | some option, some value =>
          match found.addValue option value with
          | some found => scan g found rest
          | none => .answer .refused
        | some option, none =>
          match rest with
          | value :: rest =>
            match (if Argument.isValue value then found.addValue option value else none) with
            | some found => scan g found rest
            | none => .answer .refused
          | [] => .answer .refused
        | none, some _ => .answer .refused
        | none, none =>
          match found.addSwitch g name with
          | some found => scan g found rest
          | none => .answer .refused

/-! ## The whole command line -/

/-- The options that every level has. -/
def commonOptions : List ValueOption := [
  ⟨"format", fun v => (OutputFormat.ofName? v).isSome, false⟩,
  ⟨"log-format", fun v => (Log.Format.ofName? v).isSome, false⟩,
  ⟨"log-level", fun v => (Log.Level.ofName? v).isSome, false⟩]

/-- The names of the commands, and of the one that explains them. -/
def commandNames : List String :=
  ["validate", "check-keys", "keys", "version", "help"]

def outerGrammar : Grammar := ⟨commonOptions, [], false, commandNames, true⟩

/-- What is understood behind the name of a command. -/
def innerGrammar (name : String) : Grammar :=
  match name with
  | "validate" => ⟨commonOptions ++ [⟨"set", fun _ => true, true⟩], [], true, [], false⟩
  | "check-keys" => ⟨commonOptions, [], true, [], false⟩
  | "keys" =>
    ⟨commonOptions ++ [⟨"section", fun _ => true, false⟩], [], false, [], false⟩
  | _ => ⟨commonOptions, ["extended"], false, [], false⟩

namespace Request

/-- The command with a name, from what was found behind it. -/
def command? (name : String) (found : Found) : Option Command :=
  match name with
  | "validate" => found.path.map (.validate · (found.valuesOf "set"))
  | "check-keys" => found.path.map .checkKeys
  | "keys" => some (.keys (found.value? "section"))
  | _ => some (.version ("extended" ∈ found.switches))

/-- The help that names of commands ask for. -/
def ofHelp : List String → Request
  | [] => .help
  | [name] => if name ∈ commandNames then .help else .refused
  | _ => .refused

/-- The value of an option: that of the inner level before that of the
outer. -/
def merged? (outer inner : Found) (name : String) : Option String :=
  (inner.value? name).or (outer.value? name)

/-- The invocation of a command from what was found on both levels.  The level
of the log that the environment asks for serves where the command line gives
none, and must be one at any level of the command line that gives none. -/
def ofLevels (environment : Option String) (outer inner : Found) (name : String) :
    Request :=
  let needed := (outer.value? "log-level").isNone || (inner.value? "log-level").isNone
  if needed && environment.any fun v => (Log.Level.ofName? v).isNone then .refused
  else match command? name inner with
    | none => .refused
    | some command => .run {
        format := ((merged? outer inner "format").bind OutputFormat.ofName?).getD .json
        logFormat := ((merged? outer inner "log-format").bind Log.Format.ofName?).getD .text
        logLevel := (((merged? outer inner "log-level").or environment).bind
          Log.Level.ofName?).getD .info
        command := command }

/-- What a command line asks for, where `environment` is the level of the log
that the environment asks for. -/
def ofArguments (environment : Option String) (args : List String) : Request :=
  match scan outerGrammar {} args with
  | .answer request => request
  | .finished _ => .refused
  | .command outer name rest =>
    if name = "help" then ofHelp rest
    else match scan (innerGrammar name) {} rest with
      | .answer request => request
      | .finished inner => ofLevels environment outer inner name
      | .command .. => .refused

end Request

end IndexerSettings
