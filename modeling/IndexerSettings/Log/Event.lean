import IndexerSettings.Json.Writer
import IndexerSettings.Text.Quoted

/-!
# Log events

What a program reports about its work: events of graded importance with named
details, and how one is written as a line of text or of JSON.
-/

namespace IndexerSettings.Log

/-- How important an event is, from what must be seen to what only helps to
find a fault. -/
inductive Level
  | error
  | warn
  | info
  | debug
  | trace
  deriving DecidableEq, Repr

namespace Level

/-- All levels, the most important first. -/
def all : List Level := [error, warn, info, debug, trace]

def rank : Level → Nat
  | error => 0
  | warn => 1
  | info => 2
  | debug => 3
  | trace => 4

/-- The name by which a level is asked for. -/
def name : Level → String
  | error => "error"
  | warn => "warn"
  | info => "info"
  | debug => "debug"
  | trace => "trace"

/-- The name of a level in a log. -/
def label : Level → String
  | error => "ERROR"
  | warn => "WARN"
  | info => "INFO"
  | debug => "DEBUG"
  | trace => "TRACE"

/-- Whether a log kept at a level takes up an event of another. -/
def admits (kept level : Level) : Bool := level.rank ≤ kept.rank

/-- Whether a log kept at a level says where its events come from. -/
def showsTarget (kept : Level) : Bool := debug.rank ≤ kept.rank

end Level

/-- A detail of an event. -/
inductive Detail
  /-- A text that is quoted in lines of text. -/
  | quoted (s : String)
  /-- A text that is not. -/
  | plain (s : String)
  | count (n : Nat)
  deriving DecidableEq, Repr

namespace Detail

def text : Detail → String
  | quoted s => Text.quoted s
  | plain s => s
  | count n => toString n

def jsonText : Detail → String
  | quoted s => Json.stringText s
  | plain s => Json.stringText s
  | count n => toString n

end Detail

/-- An event: its level, where it comes from, what it says, and its details. -/
structure Event where
  level : Level
  target : String
  message : String
  details : List (String × Detail)
  deriving DecidableEq, Repr

/-- The forms of a log. -/
inductive Format
  | text
  | json
  deriving DecidableEq, Repr

namespace Format

def all : List Format := [text, json]

def name : Format → String
  | text => "text"
  | json => "json"

end Format

namespace Event

/-- A line of text, after the time `stamp`. -/
def textLine (showTarget : Bool) (stamp : String) (e : Event) : String :=
  stamp ++ " " ++ String.ofList (List.replicate (5 - e.level.label.length) ' ')
    ++ e.level.label ++ " " ++ (if showTarget then e.target ++ ": " else "")
    ++ e.message
    ++ String.join (e.details.map fun (name, d) => " " ++ name ++ "=" ++ d.text)

/-- A line of JSON, with the time `stamp`. -/
def jsonLine (showTarget : Bool) (stamp : String) (e : Event) : String :=
  let member (name value : String) := Json.stringText name ++ ":" ++ value
  let object (members : List String) := "\x7b" ++ ",".intercalate members ++ "\x7d"
  object (
    [member "timestamp" (Json.stringText stamp),
      member "level" (Json.stringText e.level.label),
      member "fields" (object (member "message" (Json.stringText e.message)
        :: e.details.map fun (name, d) => member name d.jsonText))]
    ++ if showTarget then [member "target" (Json.stringText e.target)] else [])

/-- The line of an event in a log kept at a level. -/
def line (format : Format) (kept : Level) (stamp : String) (e : Event) : String :=
  match format with
  | .text => e.textLine kept.showsTarget stamp
  | .json => e.jsonLine kept.showsTarget stamp

end Event

/-- The lines of those events that a log kept at a level takes up. -/
def lines (format : Format) (kept : Level) (stamp : String) (events : List Event) :
    List String :=
  (events.filter (kept.admits ·.level)).map (·.line format kept stamp)

end IndexerSettings.Log
