/-!
# What is wrong with a text that is no JSON

A fault and the place at which it shows.
-/

namespace IndexerSettings.Json

/-- A place in a text: its line, counted from one, and the bytes of that line
that come before it. -/
structure Position where
  line : Nat
  column : Nat
  deriving DecidableEq, Repr

namespace Position

def start : Position := ⟨1, 0⟩

/-- The place after a character. -/
def after (p : Position) (c : Char) : Position :=
  if c = '\n' then ⟨p.line + 1, 0⟩ else ⟨p.line, p.column + c.utf8Size⟩

/-- The place after the first byte of a character. -/
def afterByte (p : Position) (c : Char) : Position :=
  if c = '\n' then ⟨p.line + 1, 0⟩ else ⟨p.line, p.column + 1⟩

/-- The place `bytes` further in a text, or at its end if that comes first. -/
def advance (p : Position) : Nat → List Char → Position
  | _, [] => p
  | bytes, c :: cs =>
    if bytes = 0 then p
    else if bytes < c.utf8Size then ⟨p.line, p.column + bytes⟩
    else (p.after c).advance (bytes - c.utf8Size) cs

end Position

/-- The ways for a text not to be JSON. -/
inductive Fault
  | endInArray
  | endInObject
  | endInString
  | endInValue
  | noColon
  | noCommaInArray
  | noCommaInObject
  | badLiteral
  | noValue
  | badEscape
  | badNumber
  | numberTooLarge
  | controlInString
  | keyNotString
  | loneSurrogate
  | trailingComma
  | trailingText
  | surrogateCutShort
  | tooDeep
  deriving DecidableEq, Repr

def Fault.message : Fault → String
  | endInArray => "EOF while parsing a list"
  | endInObject => "EOF while parsing an object"
  | endInString => "EOF while parsing a string"
  | endInValue => "EOF while parsing a value"
  | noColon => "expected \x60:\x60"
  | noCommaInArray => "expected \x60,\x60 or \x60]\x60"
  | noCommaInObject => "expected \x60,\x60 or \x60\x7d\x60"
  | badLiteral => "expected ident"
  | noValue => "expected value"
  | badEscape => "invalid escape"
  | badNumber => "invalid number"
  | numberTooLarge => "number out of range"
  | controlInString =>
    "control character (\\u0000-\\u001F) found while parsing a string"
  | keyNotString => "key must be a string"
  | loneSurrogate => "lone leading surrogate in hex escape"
  | trailingComma => "trailing comma"
  | trailingText => "trailing characters"
  | surrogateCutShort => "unexpected end of hex escape"
  | tooDeep => "recursion limit exceeded"

/-- A fault and its place. -/
structure SyntaxError where
  fault : Fault
  position : Position
  deriving DecidableEq, Repr

def SyntaxError.message (e : SyntaxError) : String :=
  e.fault.message ++ " at line " ++ toString e.position.line
    ++ " column " ++ toString e.position.column

end IndexerSettings.Json
