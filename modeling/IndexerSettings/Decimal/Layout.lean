import IndexerSettings.Decimal.Shortest

/-!
# Writing floating-point numbers

How the shortest decimal of a number is laid out.  What differs from one
output to the next is gathered in a `Layout`.
-/

namespace IndexerSettings.Decimal

/-- The decisions of one written form of floating-point numbers. -/
structure Layout where
  /-- The powers of ten that a leading digit may stand for, from the lowest up
  to but not including the highest, for the number to be written without an
  exponent; absent, it always is. -/
  positional : Option (Int × Int)
  /-- Whole numbers written without an exponent end in `.0`. -/
  wholePoint : Bool
  /-- Exponents from zero on carry a plus sign. -/
  plusSign : Bool
  /-- Which of two equally near decimals is written. -/
  tie : Tie

namespace Layout

def digitText (n : Nat) : String := String.ofList (Nat.toDigits 10 n)

def zeros (n : Nat) : String := String.ofList (List.replicate n '0')

/-- The digits with the point put among them, or zeros up to the point. -/
def placed (layout : Layout) (s : Scaled) : String :=
  let digits := Nat.toDigits 10 s.digits
  let whole := (digits.length : Int) + s.exponent
  if 0 ≤ s.exponent then
    String.ofList digits ++ zeros s.exponent.toNat
      ++ if layout.wholePoint then ".0" else ""
  else if 0 < whole then
    String.ofList (digits.take whole.toNat) ++ "."
      ++ String.ofList (digits.drop whole.toNat)
  else "0." ++ zeros (-whole).toNat ++ String.ofList digits

/-- One digit before the point, and the exponent that this asks for. -/
def exponential (layout : Layout) (s : Scaled) : String :=
  let digits := Nat.toDigits 10 s.digits
  let exponent := s.exponent + digits.length - 1
  String.ofList (digits.take 1)
    ++ (if digits.length ≤ 1 then "" else "." ++ String.ofList (digits.drop 1))
    ++ "e"
    ++ (if exponent < 0 then "-" else if layout.plusSign then "+" else "")
    ++ digitText exponent.natAbs

/-- Whether a decimal other than zero is written without an exponent. -/
def isPositional (layout : Layout) (s : Scaled) : Bool :=
  match layout.positional with
  | none => true
  | some (low, high) =>
    let leading := s.exponent + length s.digits - 1
    low ≤ leading && leading < high

/-- The text of a number. -/
def text (layout : Layout) (x : Binary64) : String :=
  if x.isNaN then "NaN"
  else
    let sign := if x.negative then "-" else ""
    if !x.isFinite then sign ++ "inf"
    else
      let s := shortest layout.tie x
      sign ++
        if s.digits = 0 || layout.isPositional s then layout.placed s
        else layout.exponential s

end Layout

end IndexerSettings.Decimal
