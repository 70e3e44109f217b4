/-!
# Characters and lines

What texts are told by all over: classes of characters that are given by ranges,
the white space that surrounds a value without being part of it, and lines.
-/

namespace IndexerSettings.Text

/-! ## Classes of characters -/

/-- Whether the code point of a character lies in one of some ranges, which are
given by their first and last code points in ascending order. -/
def inRanges (ranges : List (Nat × Nat)) (c : Char) : Bool :=
  ranges.any fun (first, last) => first ≤ c.toNat && c.toNat ≤ last

/-- The characters with the Unicode property `White_Space`. -/
def isBlank (c : Char) : Bool :=
  let n := c.toNat
  (0x09 ≤ n && n ≤ 0x0d) || n == 0x20 || n == 0x85 || n == 0xa0
    || n == 0x1680 || (0x2000 ≤ n && n ≤ 0x200a) || n == 0x2028
    || n == 0x2029 || n == 0x202f || n == 0x205f || n == 0x3000

/-! ## Blanks around a text -/

/-- The characters left when blanks are dropped from both ends. -/
def trimChars (cs : List Char) : List Char :=
  ((cs.dropWhile isBlank).reverse.dropWhile isBlank).reverse

/-- A text with nothing but blanks in it, the empty one included. -/
def isBlankText (s : String) : Bool := s.toList.all isBlank

/-! ## Lines -/

/-- A text with spaces behind it, up to a number of characters. -/
def padRight (width : Nat) (s : String) : String :=
  s ++ String.ofList (List.replicate (width - s.length) ' ')

/-- Lines, each with its end. -/
def unlines (lines : List String) : String :=
  String.join (lines.map (· ++ "\n"))

end IndexerSettings.Text
