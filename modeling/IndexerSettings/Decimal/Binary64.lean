import IndexerSettings.Decimal.Integer

/-!
# Binary floating point of 64 bits

A number is held as its 64-bit word, and everything about it is computed from
the word in `Nat`: its sign, its finite value `significand * 2 ^ scale`, and
the word nearest to a ratio, to a decimal, or to what two numbers multiply or
divide to.  Halves go to the even neighbour, and what is too large becomes
infinite.
-/

namespace IndexerSettings.Decimal

/-- A floating-point number, as its word: a sign bit, eleven bits of exponent
and fifty-two of fraction. -/
structure Binary64 where
  bits : UInt64
  deriving DecidableEq

namespace Binary64

/-! ## The parts of the word -/

def word (x : Binary64) : Nat := x.bits.toNat

/-- The sign bit is set. -/
def negative (x : Binary64) : Bool := x.word.testBit 63

def exponentField (x : Binary64) : Nat := (x.word >>> 52) % 0x800

def fraction (x : Binary64) : Nat := x.word % 0x10000000000000

/-- Neither infinite nor a NaN. -/
def isFinite (x : Binary64) : Bool := x.exponentField != 0x7ff

def isNaN (x : Binary64) : Bool := !x.isFinite && x.fraction != 0

/-- The whole number that `2 ^ scale` is multiplied by. -/
def significand (x : Binary64) : Nat :=
  if x.exponentField = 0 then x.fraction else 0x10000000000000 + x.fraction

/-- The exponent of the lowest bit of the significand. -/
def scale (x : Binary64) : Int := max x.exponentField 1 - 1075

def isZero (x : Binary64) : Bool := x.exponentField == 0 && x.fraction == 0

/-- Below zero: neither zero of either sign nor a NaN. -/
def isBelowZero (x : Binary64) : Bool := x.negative && !x.isZero && !x.isNaN

/-! ## Building a word -/

/-- The magnitude of infinity, the least that no finite number has. -/
def infiniteMagnitude : Nat := 0x7ff <<< 52

/-- The number with the given sign and lower 63 bits. -/
def pack (negative : Bool) (magnitude : Nat) : Binary64 :=
  ⟨UInt64.ofNat ((if negative then 1 <<< 63 else 0) + magnitude)⟩

def zero (negative : Bool) : Binary64 := pack negative 0

def infinity (negative : Bool) : Binary64 := pack negative infiniteMagnitude

def nan (negative : Bool) : Binary64 := pack negative (infiniteMagnitude + (1 <<< 51))

/-! ## Rounding -/

/-- The whole number nearest to `num / den`, a half going to the even one. -/
def roundHalfEven (num den : Nat) : Nat :=
  let quotient := num / den
  let twice := 2 * (num % den)
  if twice < den then quotient
  else if den < twice then quotient + 1
  else quotient + quotient % 2

/-- The power of two just below `num / den`: the `k` with
`2 ^ k ≤ num / den < 2 ^ (k + 1)`, for positive `num` and `den`. -/
def floorLog2 (num den : Nat) : Int :=
  let k : Int := (num.log2 : Int) - den.log2
  if den <<< k.toNat ≤ num <<< (-k).toNat then k else k - 1

/-- The lower 63 bits of the number nearest to `num / den`.  The significand
is added to its exponent rather than joined to it, so that rounding up to the
next power of two carries into the exponent. -/
def magnitudeOfRatio (num den : Nat) : Nat :=
  let scale := max (floorLog2 num den - 52) (-1074)
  let significand :=
    roundHalfEven (num <<< (-scale).toNat) (den <<< scale.toNat)
  min (((scale + 1074).toNat <<< 52) + significand) infiniteMagnitude

/-- The number nearest to `num / den`, for a positive `den`. -/
def ofRatio (negative : Bool) (num den : Nat) : Binary64 :=
  pack negative (if num = 0 then 0 else magnitudeOfRatio num den)

/-- The number nearest to a whole number. -/
def ofInt (n : Int) : Binary64 := ofRatio (n < 0) n.natAbs 1

/-- The number nearest to `digits * 10 ^ exponent`.  A decimal of `10 ^ 400`
or more is infinite and one below `10 ^ -400` is zero, whatever its digits, so
no larger power of ten is ever computed. -/
def ofDecimal (negative : Bool) (digits : Nat) (exponent : Int) : Binary64 :=
  let top := exponent + length digits
  if digits = 0 ∨ top < -400 then zero negative
  else if 400 < top then infinity negative
  else ofRatio negative (digits * tenTo exponent.toNat) (tenTo (-exponent).toNat)

/-! ## Products and quotients -/

/-- The product of two finite numbers. -/
def mul (x y : Binary64) : Binary64 :=
  let scale := x.scale + y.scale
  ofRatio (x.negative != y.negative)
    ((x.significand * y.significand) <<< scale.toNat) (1 <<< (-scale).toNat)

/-- The quotient of two finite numbers, of which the second is not zero. -/
def div (x y : Binary64) : Binary64 :=
  let scale := x.scale - y.scale
  ofRatio (x.negative != y.negative)
    (x.significand <<< scale.toNat) (y.significand <<< (-scale).toNat)

end Binary64

end IndexerSettings.Decimal
