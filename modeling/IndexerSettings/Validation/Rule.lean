import IndexerSettings.Files.Basic
import IndexerSettings.Settings.Endpoint
import IndexerSettings.Validation.Section

/-!
# Rules

The checks that settings pass through, in their order.  The first that fails
ends the pass.  Two of them also complete the settings: `probe` names the
chain, `apiEndpoint` adds a port to the address of the node.
-/

namespace IndexerSettings

/-- The rules that valid settings keep. -/
inductive Rule
  | database
  | probe
  | throttling
  | indexingMode
  | blockRange
  | filterFile
  | apiEndpoint
  deriving DecidableEq, Repr

namespace Rule

/-- All rules, in the order in which they are applied. -/
def all : List Rule :=
  [database, probe, throttling, indexingMode, blockRange, filterFile, apiEndpoint]

def name : Rule → String
  | database => "database"
  | probe => "probe"
  | throttling => "throttling"
  | indexingMode => "indexing-mode"
  | blockRange => "block-range"
  | filterFile => "block-event-filter-file"
  | apiEndpoint => "api-endpoint"

/-- The rule with a name. -/
def ofName? (name : String) : Option Rule := all.find? (·.name == name)

/-- A rule with its name, for diagnosis. -/
def inspect (r : Rule) : String :=
  "Rule \x7b name: " ++ Text.quoted r.name ++ " \x7d"

end Rule

/-- What applying a rule comes to: the settings as it leaves them, and whether
they keep it. -/
structure Verdict where
  settings : Settings
  outcome : Except ValidationError Unit

namespace Rule

/-- The settings keep the rule, or not, and stay as they are. -/
def judge (s : Settings) (outcome : Except ValidationError Unit) : Verdict :=
  ⟨s, outcome⟩

/-- The file of event filters is there, or at least not known to be missing,
if it is needed. -/
def checkFilterFile (fs : FileSystem) (s : BaseSettings) :
    Except ValidationError Unit :=
  if !s.indexBlockEvents then .ok ()
  else match s.filterPath? with
    | none => .ok ()
    | some path =>
      match fs.status path with
      | .error (.system 2) => .error (.filterFileMissing path)
      | _ => .ok ()

/-- Applies a rule.  Where `probe` fails, it leaves its section as it is by
default. -/
def apply (fs : FileSystem) (s : Settings) : Rule → Verdict
  | database => judge s s.database.check
  | probe =>
    match s.probe.check with
    | .ok p => ⟨{ s with probe := p }, .ok ()⟩
    | .error e => ⟨{ s with probe := {} }, .error e⟩
  | throttling => judge s s.base.throttling.check
  | indexingMode =>
    judge s (if s.base.indexesAnything then .ok () else .error .nothingIndexed)
  | blockRange => judge s s.base.checkRange
  | filterFile => judge s (checkFilterFile fs s.base)
  | apiEndpoint =>
    ⟨{ s with base := { s.base with api := Endpoint.withDefaultPort s.base.api } },
      .ok ()⟩

end Rule

/-- Applies rules to the same settings, one after the other, whether they are
kept or not: the verdicts in order. -/
def applyRules (fs : FileSystem) (s : Settings) : List Rule → List Verdict
  | [] => []
  | r :: rest =>
    let v := r.apply fs s
    v :: applyRules fs v.settings rest

/-- Applies rules up to the first that is not kept. -/
def checkRules (fs : FileSystem) (s : Settings) :
    List Rule → Except ValidationError Settings
  | [] => .ok s
  | r :: rest =>
    let v := r.apply fs s
    match v.outcome with
    | .ok _ => checkRules fs v.settings rest
    | .error e => .error e

/-- The settings, completed, if they are valid; else the first rule that they
do not keep. -/
def Settings.validate (fs : FileSystem) (s : Settings) :
    Except ValidationError Settings :=
  checkRules fs s Rule.all

end IndexerSettings
