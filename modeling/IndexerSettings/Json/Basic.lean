import IndexerSettings.Decimal.Binary64

/-!
# JSON values

The tree of a JSON text, with the members of every object in the order in
which they stand there.  Numbers are integers of 64 bits, with or without a
sign, or finite floating-point numbers, so no value is without a written form.
-/

namespace IndexerSettings

open Decimal

namespace Json

/-- A number: whole and within 64 bits, or floating-point and finite. -/
inductive Number
  | integer (n : Int) (inRange : -0x8000000000000000 ≤ n ∧ n ≤ 0xffffffffffffffff)
  | real (x : Binary64) (finite : x.isFinite)
  deriving DecidableEq

namespace Number

/-- A whole number, if it is within range. -/
def ofInt? (n : Int) : Option Number :=
  if h : -0x8000000000000000 ≤ n ∧ n ≤ 0xffffffffffffffff then some (.integer n h) else none

/-- A floating-point number, if it is finite. -/
def ofBinary64? (x : Binary64) : Option Number :=
  if h : x.isFinite then some (.real x h) else none

def ofInt64 (n : Int64) : Number :=
  .integer n.toInt ⟨n.le_toInt, by have := n.toInt_lt; omega⟩

def ofUInt64 (n : UInt64) : Number :=
  .integer n.toNat (by have := n.toNat_lt; omega)

/-- The nearest floating-point number. -/
def toBinary64 : Number → Binary64
  | integer n _ => .ofInt n
  | real x _ => x

end Number

/-- A value that holds no other values. -/
inductive Scalar
  | null
  | bool (b : Bool)
  | number (n : Number)
  | string (s : String)
  deriving DecidableEq

namespace Scalar

def ofInt64 (n : Int64) : Scalar := number (.ofInt64 n)

def ofUInt64 (n : UInt64) : Scalar := number (.ofUInt64 n)

/-- A number if it is finite; JSON has no way to write the rest, and `null`
stands for it. -/
def ofBinary64 (x : Binary64) : Scalar :=
  ((Number.ofBinary64? x).map number).getD null

end Scalar

end Json

/-- A JSON value. -/
inductive Json
  | scalar (s : Json.Scalar)
  | array (items : List Json)
  | object (members : List (String × Json))

namespace Json

instance : Inhabited Json := ⟨scalar .null⟩

/-- A member of an object: its name and its value. -/
abbrev Member := String × Json

def ofString (s : String) : Json := scalar (.string s)

def ofStrings (ss : List String) : Json := array (ss.map ofString)

/-- A count, which no program lets grow beyond 64 bits. -/
def ofCount (n : Nat) : Json := scalar (.ofUInt64 (.ofNat n))

/-! ## Equality -/

mutual

def decEq : (a b : Json) → Decidable (a = b)
  | scalar a, scalar b => decidable_of_iff (a = b) (by simp)
  | array a, array b =>
    match decEqItems a b with
    | isTrue h => isTrue (by rw [h])
    | isFalse h => isFalse fun e => h (by injection e)
  | object a, object b =>
    match decEqMembers a b with
    | isTrue h => isTrue (by rw [h])
    | isFalse h => isFalse fun e => h (by injection e)
  | scalar _, array _ | scalar _, object _ | array _, scalar _
  | array _, object _ | object _, scalar _ | object _, array _ => isFalse nofun

def decEqItems : (as bs : List Json) → Decidable (as = bs)
  | [], [] => isTrue rfl
  | [], _ :: _ | _ :: _, [] => isFalse nofun
  | a :: as, b :: bs =>
    match decEq a b, decEqItems as bs with
    | isTrue h, isTrue hs => isTrue (by rw [h, hs])
    | isFalse h, _ => isFalse fun e => h (by injection e)
    | _, isFalse hs => isFalse fun e => hs (by injection e)

def decEqMembers : (as bs : List Member) → Decidable (as = bs)
  | [], [] => isTrue rfl
  | [], _ :: _ | _ :: _, [] => isFalse nofun
  | (k, a) :: as, (l, b) :: bs =>
    match decEq a b, decEqMembers as bs with
    | isTrue h, isTrue hs =>
      if hk : k = l then isTrue (by rw [hk, h, hs])
      else isFalse fun e => hk (by injection e with e _; injection e)
    | isFalse h, _ => isFalse fun e => h (by injection e with e _; injection e)
    | _, isFalse hs => isFalse fun e => hs (by injection e)

end

instance : DecidableEq Json := decEq

end Json

end IndexerSettings
