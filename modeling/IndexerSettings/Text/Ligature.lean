import IndexerSettings.Text.CharColumns

/-!
# Letters that share a cell

In several scripts two letters side by side, or with a joiner between them, are
drawn as one.  A `LetterEnd` is the second part of such a pair, and `before?` says
what becomes of it with one more character in front.
-/

namespace IndexerSettings.Text

/-- What makes two neighbours one where they could also stand apart. -/
def zeroWidthJoiner : Char := '\u200d'

/-! ## Arabic -/

/-- The letters that stand like alef. -/
def isAlef (c : Char) : Bool :=
  inRanges [(0x622, 0x623), (0x625, 0x625), (0x627, 0x627), (0x671, 0x673),
    (0x675, 0x675), (0x773, 0x774), (0x870, 0x882)] c

/-- The letters that stand like lam. -/
def isLam (c : Char) : Bool :=
  inRanges [(0x644, 0x644), (0x6b5, 0x6b8), (0x76a, 0x76a), (0x8a6, 0x8a6),
    (0x8c7, 0x8c7)] c

/-- Characters without a width that keep the letters around them from joining. -/
def unjoining : List (Nat × Nat) :=
  [(0x605, 0x605), (0x890, 0x891), (0x8e2, 0x8e2), (0x9be, 0x9be),
   (0x9d7, 0x9d7), (0xb3e, 0xb3e), (0xb57, 0xb57), (0xbbe, 0xbbe),
   (0xbd7, 0xbd7), (0xcc0, 0xcc0), (0xcc2, 0xcc2), (0xcc7, 0xcc8),
   (0xcca, 0xccb), (0xcd5, 0xcd6), (0xd3e, 0xd3e), (0xd4e, 0xd4e),
   (0xd57, 0xd57), (0xdcf, 0xdcf), (0xddf, 0xddf), (0x1160, 0x11ff),
   (0x1715, 0x1715), (0x1734, 0x1734), (0x180e, 0x180e), (0x1b35, 0x1b35),
   (0x1b3b, 0x1b3b), (0x1b3d, 0x1b3d), (0x1b43, 0x1b44), (0x1baa, 0x1baa),
   (0x1bf2, 0x1bf3), (0x200c, 0x200d), (0x2065, 0x2069), (0x302e, 0x302f),
   (0x3164, 0x3164), (0xa8fa, 0xa8fa), (0xa953, 0xa953), (0xa9c0, 0xa9c0),
   (0xd7b0, 0xd7c6), (0xd7cb, 0xd7fb), (0xffa0, 0xffa0), (0xfff0, 0xfff8),
   (0x111c0, 0x111c0), (0x111c2, 0x111c3), (0x11235, 0x11235),
   (0x1133e, 0x1133e), (0x1134d, 0x1134d), (0x11357, 0x11357),
   (0x113b8, 0x113b8), (0x113c2, 0x113c2), (0x113c5, 0x113c5),
   (0x113c7, 0x113c9), (0x113cf, 0x113cf), (0x113d1, 0x113d1),
   (0x114b0, 0x114b0), (0x114bd, 0x114bd), (0x115af, 0x115af),
   (0x116b6, 0x116b6), (0x11930, 0x11930), (0x1193d, 0x1193d),
   (0x1193f, 0x1193f), (0x11941, 0x11941), (0x11a3a, 0x11a3a),
   (0x11a84, 0x11a89), (0x11d46, 0x11d46), (0x11f02, 0x11f02),
   (0x11f41, 0x11f41), (0x16ff0, 0x16ff1), (0x1d165, 0x1d166),
   (0x1d16d, 0x1d172), (0xe0000, 0xe0000), (0xe0002, 0xe001f),
   (0xe0080, 0xe00ff), (0xe01f0, 0xe0fff)]

/-- Whether a character may stand between letters that join: it has no width,
and its `Joining_Type` is transparent. -/
def isTransparent (c : Char) : Bool := charColumns c == 0 && !inRanges unjoining c

/-! ## Other scripts -/

/-- Marks that may stand anywhere in a pair: those ignorable by default. -/
def isIgnorableMark (c : Char) : Bool :=
  inRanges [(0x34f, 0x34f), (0x17b4, 0x17b5), (0x180b, 0x180d), (0x180f, 0x180f),
    (0xfe00, 0xfe0f), (0xe0100, 0xe01ef)] c

def isTifinaghConsonant (c : Char) : Bool :=
  inRanges [(0x2d31, 0x2d65), (0x2d6f, 0x2d6f)] c

/-- The Khmer letters that take no cell as the lower part of a syllable. -/
def isKhmerSubscript (c : Char) : Bool :=
  inRanges [(0x1780, 0x1782), (0x1784, 0x1787), (0x1789, 0x178c),
    (0x178e, 0x1793), (0x1795, 0x1798), (0x179b, 0x179d), (0x17a0, 0x17a0),
    (0x17a2, 0x17a2), (0x17a7, 0x17a7), (0x17ab, 0x17ac), (0x17af, 0x17af)] c

/-- The end of a pair of letters. -/
inductive LetterEnd
  | hebrewLamed
  | bugineseYa
  /-- The vowel sign before a joiner and `bugineseYa`. -/
  | bugineseVowel
  | tifinaghConsonant
  /-- The consonant joiner before `tifinaghConsonant`. -/
  | tifinaghJoiner
  | lisuTone
  | orkhonI
  | khmerSubscript
  deriving DecidableEq, Repr

namespace LetterEnd

/-- The pairs that end in a character. -/
def ofChar? (c : Char) : Option LetterEnd :=
  if c = '\u05dc' then some hebrewLamed
  else if c = '\u1a10' then some bugineseYa
  else if isTifinaghConsonant c then some tifinaghConsonant
  else if c = '\ua4fc' ∨ c = '\ua4fd' then some lisuTone
  else if c.toNat = 0x10c03 then some orkhonI
  else if isKhmerSubscript c then some khmerSubscript
  else none

/-- The cells that a character adds in front of the end of a pair, and the end
that it makes of it, if the pair is not complete; nothing if the character does
not belong to the pair.  `joined` tells of a joiner in between. -/
def before? (e : LetterEnd) (joined : Bool) (c : Char) :
    Option (Int × Option LetterEnd) :=
  match e with
  | hebrewLamed => if joined && c == '\u05d0' then some (0, none) else none
  | bugineseYa => if joined && c == '\u1a17' then some (0, some bugineseVowel) else none
  | bugineseVowel => if c = '\u1a15' then some (0, none) else none
  | tifinaghConsonant =>
    if c = '\u2d7f' then some (1, some tifinaghJoiner)
    else if joined && isTifinaghConsonant c then some (0, none)
    else none
  | tifinaghJoiner => if isTifinaghConsonant c then some (-1, none) else none
  | lisuTone => if '\ua4f8' ≤ c ∧ c ≤ '\ua4fb' then some (0, none) else none
  | orkhonI => if joined && c.toNat == 0x10c32 then some (0, none) else none
  | khmerSubscript => if c = '\u17d2' then some (-1, none) else none

end LetterEnd

end IndexerSettings.Text
