/-!
# Integers in decimal

Reading whole numbers written in ASCII digits, with an optional sign.
-/

namespace IndexerSettings.Decimal

/-- The value of an ASCII digit. -/
def digit? (c : Char) : Option Nat :=
  if '0' ≤ c ∧ c ≤ '9' then some (c.toNat - '0'.toNat) else none

/-- An ASCII digit. -/
def isDigit (c : Char) : Bool := (digit? c).isSome

/-- The number that digits, given from the highest to the lowest, write. -/
def ofDigits (ds : List Nat) : Nat := ds.foldl (fun n d => 10 * n + d) 0

/-- The number that a run of characters writes, if it is one or more digits. -/
def natural? (cs : List Char) : Option Nat :=
  if cs.isEmpty then none else (cs.mapM digit?).map ofDigits

/-- A number without a minus sign: digits, after at most one `+`. -/
def unsigned? : List Char → Option Nat
  | '+' :: cs => natural? cs
  | cs => natural? cs

/-- A number with at most one sign before its digits. -/
def signed? : List Char → Option Int
  | '-' :: cs => (natural? cs).map fun n => -(n : Int)
  | cs => (unsigned? cs).map fun n => (n : Int)

/-- A power of ten. -/
def tenTo (exponent : Nat) : Nat := Nat.pow 10 exponent

/-- How many digits a number has in decimal; one for zero. -/
def length (n : Nat) : Nat := (Nat.toDigits 10 n).length

end IndexerSettings.Decimal
