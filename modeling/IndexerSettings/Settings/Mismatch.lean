import IndexerSettings.Json.Writer
import IndexerSettings.Text.Quoted

/-!
# Values that do not fit

What a JSON value is wanted to be, why one is not, and the readers of the
values of single fields.
-/

namespace IndexerSettings

open Decimal

/-- What a value is wanted to be. -/
inductive Wanted
  | text
  | boolean
  | int64
  | uint64
  | binary64
  /-- A section, by its title. -/
  | settings (title : String)
  deriving DecidableEq, Repr

def Wanted.name : Wanted → String
  | text => "a string"
  | boolean => "a boolean"
  | int64 => "i64"
  | uint64 => "u64"
  | binary64 => "f64"
  | settings title => "struct " ++ title

/-- Why a value does not fit. -/
inductive Mismatch
  /-- It is a value of another kind. -/
  | wrongKind (found : Json) (wanted : Wanted)
  /-- It is an integer out of range. -/
  | outOfRange (n : Int) (wanted : Wanted)
  /-- It is an array with more items than there are fields. -/
  | tooManyItems (count : Nat)
  deriving DecidableEq

namespace Json

/-- A value in a message: its kind, and itself if it is short. -/
def described : Json → String
  | scalar .null => "null"
  | scalar (.bool b) => "boolean \x60" ++ boolText b ++ "\x60"
  | scalar (.number n@(.integer ..)) => "integer \x60" ++ n.text ++ "\x60"
  | scalar (.number n@(.real ..)) => "floating point \x60" ++ n.text ++ "\x60"
  | scalar (.string s) => "string " ++ Text.quoted s
  | array _ => "sequence"
  | object _ => "map"

/-! ## Values of fields -/

def readText : Json → Except Mismatch String
  | scalar (.string s) => .ok s
  | j => .error (.wrongKind j .text)

def readBool : Json → Except Mismatch Bool
  | scalar (.bool b) => .ok b
  | j => .error (.wrongKind j .boolean)

def readInt64 : Json → Except Mismatch Int64
  | scalar (.number (.integer n _)) =>
    if n ≤ 0x7fffffffffffffff then .ok (.ofInt n) else .error (.outOfRange n .int64)
  | j => .error (.wrongKind j .int64)

def readUInt64 : Json → Except Mismatch UInt64
  | scalar (.number (.integer n _)) =>
    if 0 ≤ n then .ok (.ofNat n.toNat) else .error (.outOfRange n .uint64)
  | j => .error (.wrongKind j .uint64)

/-- Integers serve as floating-point numbers. -/
def readBinary64 : Json → Except Mismatch Binary64
  | scalar (.number n) => .ok n.toBinary64
  | j => .error (.wrongKind j .binary64)

end Json

def Mismatch.message : Mismatch → String
  | wrongKind found wanted =>
    "invalid type: " ++ found.described ++ ", expected " ++ wanted.name
  | outOfRange n wanted =>
    "invalid value: integer \x60" ++ toString n ++ "\x60, expected " ++ wanted.name
  | tooManyItems count =>
    "invalid length " ++ toString count ++ ", expected fewer elements in array"

end IndexerSettings
