import IndexerSettings.Decimal.Binary64

/-!
# The shortest decimal of a floating-point number

Of all decimals that read back as a given number, the one with the fewest
digits, and of those the nearest.  The reals that round to the number form an
interval, so this is a search over the grids `10 ^ p`, from coarse to fine,
for the first with a point in the interval.
-/

namespace IndexerSettings.Decimal

/-- `digits * 10 ^ exponent`. -/
structure Scaled where
  digits : Nat
  exponent : Int
  deriving DecidableEq, Repr

/-- Which of two decimals at the same distance is taken. -/
inductive Tie
  | even
  | up
  deriving DecidableEq, Repr

/-- The reals that round to a positive number, in quarters of its last place:
`low` and `high` times `2 ^ scale`, the ends included or not. -/
structure Interval where
  low : Nat
  mid : Nat
  high : Nat
  scale : Int
  closed : Bool
  deriving DecidableEq, Repr

namespace Interval

/-- The interval of a finite number other than zero.  The numbers below a
power of two stand twice as close as those above it, and a number whose
significand is even takes the halves at both ends. -/
def around (x : Binary64) : Interval where
  low := 4 * x.significand -
    if x.fraction = 0 ∧ 1 < x.exponentField then 1 else 2
  mid := 4 * x.significand
  high := 4 * x.significand + 2
  scale := x.scale - 2
  closed := x.significand % 2 = 0

/-- What a unit of the grid `10 ^ p` and a unit of the interval are multiplied
by, to compare the two as whole numbers. -/
def weights (i : Interval) (p : Int) : Nat × Nat :=
  (tenTo p.toNat <<< (-i.scale).toNat, tenTo (-p).toNat <<< i.scale.toNat)

/-- Whether `d * 10 ^ p` lies in the interval. -/
def contains (i : Interval) (p : Int) (d : Nat) : Bool :=
  let (grid, unit) := i.weights p
  if i.closed then i.low * unit ≤ d * grid && d * grid ≤ i.high * unit
  else i.low * unit < d * grid && d * grid < i.high * unit

/-- The point of the grid `10 ^ p` to take, if one lies in the interval: one
of the two neighbours of its middle, the nearer if both do. -/
def onGrid (tie : Tie) (i : Interval) (p : Int) : Option Nat :=
  let (grid, unit) := i.weights p
  let middle := i.mid * unit
  let below := middle / grid
  let above := below + 1
  match i.contains p below, i.contains p above with
  | false, false => none
  | true, false => some below
  | false, true => some above
  | true, true =>
    let toBelow := middle - below * grid
    let toAbove := above * grid - middle
    if toBelow < toAbove then some below
    else if toAbove < toBelow then some above
    else match tie with
      | .even => some (if below % 2 = 0 then below else above)
      | .up => some above

/-- The first point found on `steps` grids from `10 ^ p` downward. -/
def search (tie : Tie) (i : Interval) (p : Int) : Nat → Scaled
  | 0 => ⟨0, p⟩
  | steps + 1 =>
    match i.onGrid tie p with
    | some d => ⟨d, p⟩
    | none => i.search tie (p - 1) steps

/-- A power of ten above the whole interval. -/
def topExponent (i : Interval) : Int :=
  ((i.high.log2 : Int) + 1 + i.scale) * 30103 / 100000 + 1

end Interval

/-- The shortest decimal of the magnitude of a finite number.  Seventeen
digits are always enough, so the search ends long before its last grid. -/
def shortest (tie : Tie) (x : Binary64) : Scaled :=
  if x.isZero then ⟨0, 0⟩
  else
    let i := Interval.around x
    i.search tie i.topExponent 25

end IndexerSettings.Decimal
