import IndexerSettings.Json.Document
import IndexerSettings.Decimal.Layout

/-!
# Writing JSON

The compact text of a value: no blanks, members in their order, and only the
characters escaped that must be.
-/

namespace IndexerSettings.Json

open Decimal

/-- Numbers in JSON have a point or an exponent unless they are integers, and
an exponent only below `1e-5` or from `1e16` on. -/
def numberLayout : Layout where
  positional := some (-5, 16)
  wholePoint := true
  plusSign := true
  tie := .even

/-- A character inside a JSON string: quotes, backslashes and control
characters are escaped. -/
def escapedChar (c : Char) : String :=
  match c with
  | '"' => "\\\""
  | '\\' => "\\\\"
  | '\x08' => "\\b"
  | '\x0c' => "\\f"
  | '\n' => "\\n"
  | '\r' => "\\r"
  | '\t' => "\\t"
  | c =>
    if c.toNat < 0x20 then
      "\\u00" ++ String.ofList [Nat.digitChar (c.toNat / 16), Nat.digitChar (c.toNat % 16)]
    else c.toString

/-- A string between its quotes. -/
def stringText (s : String) : String :=
  "\"" ++ String.join (s.toList.map escapedChar) ++ "\""

def boolText (b : Bool) : String := if b then "true" else "false"

def Number.text : Number → String
  | .integer n _ =>
    (if n < 0 then "-" else "") ++ Layout.digitText n.natAbs
  | .real x _ => numberLayout.text x

def Scalar.text : Scalar → String
  | .null => "null"
  | .bool b => boolText b
  | .number n => n.text
  | .string s => stringText s

mutual

/-- The compact text of a value. -/
def text : Json → String
  | scalar s => s.text
  | array items => "[" ++ ",".intercalate (itemTexts items) ++ "]"
  | object members => "\x7b" ++ ",".intercalate (memberTexts members) ++ "\x7d"
termination_by structural j => j

def itemTexts : List Json → List String
  | [] => []
  | j :: rest => text j :: itemTexts rest
termination_by structural items => items

def memberTexts : List Member → List String
  | [] => []
  | (k, j) :: rest => (stringText k ++ ":" ++ text j) :: memberTexts rest
termination_by structural members => members

end

end IndexerSettings.Json
