import IndexerSettings.Decimal.Binary64

/-!
# Reading floating-point numbers

The texts that write a floating-point number: a sign or none, then digits with
a point anywhere among them and perhaps an exponent, or the name of an
infinity or of a NaN in any case of letters.
-/

namespace IndexerSettings.Decimal

/-- The digits at the head of a text, and what follows them. -/
def spanDigits (cs : List Char) : List Nat × List Char :=
  ((cs.takeWhile isDigit).filterMap digit?, cs.dropWhile isDigit)

namespace Binary64

/-- The exponent written by all of a text, which is `e` or `E`, a sign or
none, and digits; zero for the empty text. -/
def exponent? : List Char → Option Int
  | [] => some 0
  | c :: cs => if c == 'e' || c == 'E' then signed? cs else none

/-- A magnitude in digits: some before or after a point, then an exponent. -/
def digits? (negative : Bool) (cs : List Char) : Option Binary64 :=
  let (whole, rest) := spanDigits cs
  let (part, rest) := match rest with
    | '.' :: rest => spanDigits rest
    | rest => ([], rest)
  if whole.isEmpty && part.isEmpty then none
  else (exponent? rest).map fun e =>
    ofDecimal negative (ofDigits (whole ++ part)) (e - part.length)

/-- The name of a number that has no digits. -/
def named? (negative : Bool) (cs : List Char) : Option Binary64 :=
  match String.ofList (cs.map Char.toLower) with
  | "inf" | "infinity" => some (infinity negative)
  | "nan" => some (nan negative)
  | _ => none

def magnitude? (negative : Bool) (cs : List Char) : Option Binary64 :=
  (named? negative cs).orElse fun _ => digits? negative cs

/-- The number nearest to the one that a text writes. -/
def ofText? : List Char → Option Binary64
  | '-' :: cs => magnitude? true cs
  | '+' :: cs => magnitude? false cs
  | cs => magnitude? false cs

end Binary64

end IndexerSettings.Decimal
