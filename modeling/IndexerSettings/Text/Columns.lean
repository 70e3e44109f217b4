import IndexerSettings.Text.Emoji
import IndexerSettings.Text.Ligature

/-!
# Columns on a terminal

How many cells of a grid a line takes.  A line is as wide as its characters
together, except where some of them are shown as one: emoji sequences, flags,
pairs of letters, and characters whose style a selector behind them changes.
Since the last of these decides, a line is measured from its end: a `Context`
says what stands behind a place, and `Context.before` moves it one character
forward.
-/

namespace IndexerSettings.Text

/-- A style that a selector asks for. -/
inductive Style
  | emoji
  | text
  /-- A quotation mark as wide as an ideograph. -/
  | fullwidth
  deriving DecidableEq, Repr

/-- The style that a variation selector asks for. -/
def Style.ofSelector? (c : Char) : Option Style :=
  if c = '\ufe0f' then some .emoji
  else if c = '\ufe0e' then some .text
  else if c = '\ufe01' then some .fullwidth
  else none

/-- The quotation marks that have a fullwidth style. -/
def isQuotationMark (c : Char) : Bool :=
  c == '\u2018' || c == '\u2019' || c == '\u201c' || c == '\u201d'

/-- The head of what a joiner connects with the emoji behind it, as far as it has
been seen from its end. -/
inductive JoinedHead
  /-- Nothing but the joiner. -/
  | joiner
  /-- The frame of a keycap. -/
  | keycap
  /-- Some indicators of regions. -/
  | indicators (count : Nat)
  /-- The end tag of a flag, behind some tag letters. -/
  | tagLetters (count : Nat)
  /-- The same, with some tag digits before any letters. -/
  | tagDigits (count : Nat)
  deriving DecidableEq, Repr

/-- What the characters behind a place begin with, as far as it bears on the
width of the one before them. -/
inductive Follower
  /-- Nothing that matters. -/
  | nothing
  | lineFeed
  | modifier
  | indicators (count : Nat)
  | emoji
  | joined (head : JoinedHead)
  | alef
  /-- The end of a pair of letters, with a joiner before it or without. -/
  | letter (letterEnd : LetterEnd) (joiner : Bool)
  /-- A Kirat Rai vowel sign, or two of them. -/
  | vowel
  | vowels
  deriving DecidableEq, Repr

/-- What stands behind a place: a selector or none, and what follows. -/
structure Context where
  style : Option Style
  follower : Follower
  deriving DecidableEq, Repr

namespace Follower

/-- What a character begins by itself. -/
def ofChar (c : Char) : Follower :=
  if isModifier c then modifier
  else if isIndicator c then indicators 1
  else if isEmoji c then emoji
  else if isAlef c then alef
  else if c.toNat = 0x16d67 then vowel
  else if c.toNat = 0x16d68 then vowels
  else match LetterEnd.ofChar? c with
    | some e => letter e false
    | none => nothing

/-- Whether letters are about to form a pair, which selectors do not prevent. -/
def isLetter : Follower → Bool
  | alef => true
  | letter .. => true
  | _ => false

/-- Whether a follower still matters with a selector in front. -/
def outlasts (f : Follower) (s : Style) : Bool :=
  f.isLetter || (s == .emoji && (f == joined .joiner || f == joined .keycap))

/-- Whether a joiner in front connects an emoji with the follower. -/
def isJoinable : Follower → Bool
  | modifier => true
  | emoji => true
  | indicators count => 2 ≤ count
  | joined (.indicators count) => 2 ≤ count
  | _ => false

/-- A character in front of a joiner, or of the end of what it connects: the
cells it takes and what it begins there.  Indicators make flags from their
first on, so with an even number of them the first flag is connected, and with an
odd number all stand apart. -/
def beforeJoined? (head : JoinedHead) (c : Char) : Option (Int × Follower) :=
  let isTagLetter := 0xe0061 ≤ c.toNat ∧ c.toNat ≤ 0xe007a
  let isTagDigit := 0xe0030 ≤ c.toNat ∧ c.toNat ≤ 0xe0039
  let isFlag := c.toNat = 0x1f3f4
  match head with
  | .joiner =>
    if c = '\u20e3' then some (0, joined .keycap)
    else if isIndicator c then some (1, joined (.indicators 1))
    else if isModifier c then some (0, modifier)
    else if c.toNat = 0xe007f then some (0, joined (.tagLetters 0))
    else if isEmoji c then some (0, emoji)
    else none
  | .keycap => none
  | .indicators count =>
    if isIndicator c then
      some (if count % 2 = 1 then -1 else 3, joined (.indicators (count + 1)))
    else none
  | .tagLetters count =>
    if isTagLetter ∧ count < 6 then some (0, joined (.tagLetters (count + 1)))
    else if isTagDigit ∧ count ≤ 4 then some (0, joined (.tagDigits 1))
    else if isFlag ∧ 3 ≤ count then some (0, emoji)
    else none
  | .tagDigits count =>
    if isTagDigit ∧ count < 3 then some (0, joined (.tagDigits (count + 1)))
    else if isFlag ∧ count = 3 then some (0, emoji)
    else none

/-- A character that forms a sequence with what follows: the cells it takes and
what it begins there. -/
def before? (f : Follower) (c : Char) : Option (Int × Follower) :=
  if c = zeroWidthJoiner ∧ f.isJoinable then some (0, joined .joiner)
  else match f with
    | modifier => if isModifierBase c then some (0, emoji) else none
    | indicators count =>
      if isIndicator c then some (1, indicators (count + 1)) else none
    | joined head => beforeJoined? head c
    | alef =>
      if isLam c then some (0, nothing)
      else if isTransparent c then some (0, alef)
      else none
    | letter e joiner =>
      if c = zeroWidthJoiner then some (0, letter e true)
      else if isIgnorableMark c then some (0, f)
      else (e.before? joiner c).map fun (width, rest) =>
        (width, match rest with
          | some e => letter e true
          | none => nothing)
    | vowel =>
      if c.toNat = 0x16d63 ∨ c.toNat = 0x16d69 then some (0, nothing)
      else if c.toNat = 0x16d67 then some (0, vowels)
      else if c.toNat = 0x16d68 then some (1, vowel)
      else none
    | vowels => if c.toNat = 0x16d63 then some (0, nothing) else none
    | _ => none

end Follower

namespace Context

/-- Behind the end of a line. -/
def atEnd : Context := ⟨none, .nothing⟩

/-- A character whose style no selector changes, before what follows: the cells
it takes, and the context before it. -/
def beforePlain (f : Follower) (c : Char) : Int × Context :=
  if c = '\n' then (1, ⟨none, .lineFeed⟩)
  else if c.toNat ≤ 0xa0 then
    (if c = '\r' ∧ f = .lineFeed then 0 else 1, atEnd)
  else match Style.ofSelector? c with
    | some s => (0, ⟨some s, if f.outlasts s then f else .nothing⟩)
    | none =>
      match f.before? c with
      | some (width, rest) => (width, ⟨none, rest⟩)
      | none => (charColumns c, ⟨none, .ofChar c⟩)

/-- A character before a context: the cells it takes, and the context before it.
A selector serves the character right before it or none, and one that serves
none keeps emoji from being connected. -/
def before (k : Context) (c : Char) : Int × Context :=
  match k.style with
  | some .emoji =>
    if takesEmojiStyle c then
      (if k.follower.isLetter || k.follower == .nothing then 2 else 0, ⟨none, .emoji⟩)
    else beforePlain (if k.follower.isLetter then k.follower else .nothing) c
  | some .text =>
    if takesTextStyle c then (1, atEnd) else beforePlain k.follower c
  | some .fullwidth =>
    if isQuotationMark c then (2, atEnd) else beforePlain k.follower c
  | none => beforePlain k.follower c

end Context

/-- The cells that a line takes. -/
def columns (line : String) : Nat :=
  (line.toList.foldr
    (fun c (width, k) => (width + (k.before c).1, (k.before c).2))
    ((0 : Int), Context.atEnd)).1.toNat

end IndexerSettings.Text
