import IndexerSettings.Decimal.Reader
import IndexerSettings.Json.Basic
import IndexerSettings.Schema.Section
import IndexerSettings.Text.Basic

/-!
# Overrides

A setting given as `key=value`, and the value that its text stands for in a
field of some kind.
-/

namespace IndexerSettings

open Decimal

/-- A text as a value of a kind.  Blanks around it do not count, unless it is
a string, which is taken as it is. -/
def FieldKind.coerce? (kind : FieldKind) (raw : String) : Option Json.Scalar :=
  let trimmed := Text.trimChars raw.toList
  match kind with
  | bool =>
    if trimmed = "true".toList then some (.bool true)
    else if trimmed = "false".toList then some (.bool false)
    else none
  | int =>
    ((signed? trimmed).filter fun n =>
      -0x8000000000000000 ≤ n && n ≤ 0x7fffffffffffffff).bind fun n =>
      (Json.Number.ofInt? n).map .number
  | uint =>
    (unsigned? trimmed).bind fun n => (Json.Number.ofInt? n).map .number
  | float =>
    (Binary64.ofText? trimmed).bind fun x => (Json.Number.ofBinary64? x).map .number
  | string => some (.string raw)

/-- A key and the text of its value. -/
structure Assignment where
  key : String
  value : String
  deriving DecidableEq, Repr

/-- The text before the first equals sign, without blanks around it, and the
text behind that sign. -/
def Assignment.ofText? (s : String) : Option Assignment :=
  match s.toList.dropWhile (· != '=') with
  | [] => none
  | _ :: value =>
    some ⟨String.ofList (Text.trimChars (s.toList.takeWhile (· != '='))),
      String.ofList value⟩

end IndexerSettings
