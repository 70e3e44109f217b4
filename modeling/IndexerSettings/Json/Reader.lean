import IndexerSettings.Json.Basic
import IndexerSettings.Json.SyntaxError
import IndexerSettings.Decimal.Reader

/-!
# Reading JSON

The value that a text writes, or the first fault met from left to right.
Every reader takes a cursor and gives back what it read with the cursor
behind it.  Loops over a text are bounded by its length, which they cannot
use up, and the nesting of arrays and objects by a fixed limit.
-/

namespace IndexerSettings.Json

open Decimal

/-- What is left of a text, and how far into the whole it begins. -/
structure Cursor where
  rest : List Char
  position : Position
  deriving DecidableEq

namespace Cursor

def ofText (s : String) : Cursor := ⟨s.toList, .start⟩

/-- The cursor behind the next `n` characters. -/
def skip : Nat → Cursor → Cursor
  | n + 1, ⟨c :: cs, p⟩ => skip n ⟨cs, p.after c⟩
  | _, cursor => cursor

/-- The place at which the next byte has been seen. -/
def seen (cursor : Cursor) : Position :=
  match cursor.rest with
  | [] => cursor.position
  | c :: _ => cursor.position.afterByte c

/-- A fault of what has been read so far. -/
def failBehind {α : Type} (cursor : Cursor) (fault : Fault) :
    Except SyntaxError α :=
  .error ⟨fault, cursor.position⟩

/-- A fault of the byte that comes next. -/
def failAhead {α : Type} (cursor : Cursor) (fault : Fault) :
    Except SyntaxError α :=
  .error ⟨fault, cursor.seen⟩

/-- The blanks that may stand between the parts of a text. -/
def isBlank (c : Char) : Bool := c == ' ' || c == '\n' || c == '\t' || c == '\r'

/-- The cursor at the next character that is no blank. -/
def skipBlanks (cursor : Cursor) : Cursor :=
  cursor.skip (cursor.rest.takeWhile isBlank).length

/-- Enough steps for any loop over the rest of a text. -/
def steps (cursor : Cursor) : Nat := cursor.rest.length + 1

end Cursor

/-- What a reader gives: what it read, and the cursor behind that. -/
abbrev Behind (α : Type) := α × Cursor

/-- Reading stops at the first fault. -/
abbrev Attempt := Except SyntaxError

/-! ## Literals -/

/-- The rest of the name of a literal, of which the first letter is read. -/
def readLiteral (value : Scalar) : List Char → Cursor → Attempt (Behind Json)
  | [], cursor => .ok (.scalar value, cursor)
  | letter :: letters, cursor =>
    match cursor.rest with
    | [] => cursor.failBehind .endInValue
    | c :: _ =>
      if c = letter then readLiteral value letters (cursor.skip 1)
      else cursor.failAhead .badLiteral

/-! ## Numbers -/

/-- The greatest exponent, of either sign, that is told from greater ones. -/
def exponentLimit : Nat := 0x7fffffff

/-- Exponent digits read up to the first that takes the exponent beyond the
limit: the exponent, unless that happened, and the cursor. -/
def readExponentDigits (exponent : Nat) : Nat → Cursor → Option Nat × Cursor
  | 0, cursor => (some exponent, cursor)
  | steps + 1, cursor =>
    match cursor.rest.head?.bind digit? with
    | none => (some exponent, cursor)
    | some d =>
      let next := 10 * exponent + d
      if exponentLimit < next then (none, cursor.skip 1)
      else readExponentDigits next steps (cursor.skip 1)

/-- The exponent after its `e`: its value, and whether it is too great in
size to be told, in which case only its sign is. -/
def readExponent (cursor : Cursor) : Attempt (Behind (Bool × Option Nat)) :=
  let (negative, cursor) := match cursor.rest with
    | '-' :: _ => (true, cursor.skip 1)
    | '+' :: _ => (false, cursor.skip 1)
    | _ => (false, cursor)
  match cursor.rest with
  | [] => cursor.failBehind .endInValue
  | c :: _ =>
    if isDigit c then
      let (exponent, cursor) := readExponentDigits 0 cursor.steps cursor
      .ok ((negative, exponent), cursor)
    else cursor.failAhead .badNumber

/-- The digits at the cursor, and the cursor behind them. -/
def readDigits (cursor : Cursor) : List Nat × Cursor :=
  let digits := (spanDigits cursor.rest).1
  (digits, cursor.skip digits.length)

/-- The greatest significand that is told exactly. -/
def significandLimit : Nat := 0xffffffffffffffff

/-- Digits added to a significand up to the first that takes it beyond the
limit: the significand, and the digits that it has no room for. -/
def keepDigits (significand : Nat) : List Nat → Nat × List Nat
  | [] => (significand, [])
  | d :: ds =>
    let next := 10 * significand + d
    if significandLimit < next then (significand, d :: ds) else keepDigits next ds

/-- The exponent of the greatest power of ten that is finite. -/
def powerLimit : Nat := 308

/-- The floating-point number nearest to a power of ten. -/
def powerOfTen (exponent : Nat) : Binary64 := .ofRatio false (tenTo exponent) 1

/-- A number times `10 ^ exponent`.  The power is rounded and then the product
or quotient, so `3` times `10 ^ 23` is `2.9999999999999997e+23`; an exponent
below the powers that there are is reached by more than one quotient. -/
def scaleTen (x : Binary64) (exponent : Int) : Binary64 :=
  if exponent.natAbs ≤ powerLimit then
    if 0 ≤ exponent then x.mul (powerOfTen exponent.natAbs)
    else x.div (powerOfTen exponent.natAbs)
  else if x.isZero then x
  else if 0 ≤ exponent then .infinity x.negative
  else scaleTen (x.div (powerOfTen powerLimit)) (exponent + powerLimit)
termination_by exponent.natAbs
decreasing_by simp only [powerLimit] at *; omega

/-- A number with a point or an exponent, if finite. -/
def realNumber (negative : Bool) (significand : Nat) (exponent : Int)
    (cursor : Cursor) : Attempt (Behind Json) :=
  match Number.ofBinary64? (scaleTen (.ofRatio negative significand 1) exponent) with
  | some n => .ok (.scalar (.number n), cursor)
  | none => cursor.failBehind .numberTooLarge

/-- What follows the digits of a number: a further exponent or nothing. -/
def readScaled (negative : Bool) (significand : Nat) (exponent : Int)
    (cursor : Cursor) : Attempt (Behind Json) :=
  match cursor.rest with
  | 'e' :: _ | 'E' :: _ => do
    let ((down, further), cursor) ← readExponent (cursor.skip 1)
    match further with
    | some e =>
      realNumber negative significand (exponent + if down then -(e : Int) else e) cursor
    | none =>
      if !down && significand != 0 then cursor.failBehind .numberTooLarge
      else realNumber negative 0 0 (readDigits cursor).2
  | _ => realNumber negative significand exponent cursor

/-- A number of digits alone, some of them dropped from its significand: an
integer where it fits 64 bits and is not a negative zero, else a
floating-point number. -/
def wholeNumber (negative : Bool) (significand dropped : Nat) (cursor : Cursor) :
    Attempt (Behind Json) :=
  let integer :=
    if 0 < dropped || negative && significand == 0 then none
    else Number.ofInt? (if negative then -(significand : Int) else significand)
  match integer with
  | some n => .ok (.scalar (.number n), cursor)
  | none => realNumber negative significand dropped cursor

/-- What follows the digits before the point.  Of these, the ones that do not
fit the significand count with their number only; behind the point they do not
count at all. -/
def readFraction (negative : Bool) (whole : List Nat) (cursor : Cursor) :
    Attempt (Behind Json) :=
  let (significand, dropped) := keepDigits 0 whole
  match cursor.rest with
  | '.' :: _ =>
    let (part, cursor) := readDigits (cursor.skip 1)
    if part.isEmpty then
      match cursor.rest with
      | [] => cursor.failBehind .endInValue
      | _ :: _ => cursor.failAhead .badNumber
    else
      let (significand, unread) := keepDigits significand part
      readScaled negative significand
        (dropped.length + unread.length - part.length) cursor
  | 'e' :: _ | 'E' :: _ => readScaled negative significand dropped.length cursor
  | _ => wholeNumber negative significand dropped.length cursor

/-- A number behind its sign.  A zero at its head stands alone. -/
def readNumber (negative : Bool) (cursor : Cursor) : Attempt (Behind Json) :=
  match cursor.rest with
  | [] => cursor.failBehind .endInValue
  | '0' :: rest =>
    if (rest.head?.map isDigit).getD false then
      (cursor.skip 1).failAhead .badNumber
    else readFraction negative [0] (cursor.skip 1)
  | c :: _ =>
    if isDigit c then
      let (whole, cursor) := readDigits cursor
      readFraction negative whole cursor
    else cursor.failAhead .badNumber

/-! ## Strings -/

/-- The value of a hexadecimal digit. -/
def hexDigit? (c : Char) : Option Nat :=
  if '0' ≤ c ∧ c ≤ '9' then some (c.toNat - '0'.toNat)
  else if 'a' ≤ c ∧ c ≤ 'f' then some (c.toNat - 'a'.toNat + 10)
  else if 'A' ≤ c ∧ c ≤ 'F' then some (c.toNat - 'A'.toNat + 10)
  else none

/-- Four hexadecimal digits.  Four bytes are taken before they are looked
at, whatever they are. -/
def readHex (cursor : Cursor) : Attempt (Behind Nat) :=
  match (cursor.rest.take 4).mapM hexDigit? with
  | some [a, b, c, d] => .ok (((a * 16 + b) * 16 + c) * 16 + d, cursor.skip 4)
  | _ =>
    let size := (String.ofList (cursor.rest.take 4)).utf8ByteSize
    .error
      ⟨if size < 4 then .endInString else .badEscape,
        cursor.position.advance 4 cursor.rest⟩

/-- The character `c`, which an escaped high surrogate needs behind it. -/
def readPaired (c : Char) (cursor : Cursor) : Attempt (Behind Unit) :=
  match cursor.rest with
  | [] => cursor.failBehind .endInString
  | d :: _ =>
    if d = c then .ok ((), cursor.skip 1)
    else cursor.failAhead .surrogateCutShort

/-- A character by its UTF-16 units in hexadecimal, behind `\u`. -/
def readUnits (cursor : Cursor) : Attempt (Behind Char) := do
  let (high, cursor) ← readHex cursor
  if 0xdc00 ≤ high ∧ high < 0xe000 then cursor.failBehind .loneSurrogate
  else if 0xd800 ≤ high ∧ high < 0xdc00 then
    let (_, cursor) ← readPaired '\\' cursor
    let (_, cursor) ← readPaired 'u' cursor
    let (low, cursor) ← readHex cursor
    if 0xdc00 ≤ low ∧ low < 0xe000 then
      .ok (.ofNat (0x10000 + (high - 0xd800) * 0x400 + (low - 0xdc00)), cursor)
    else cursor.failBehind .loneSurrogate
  else .ok (.ofNat high, cursor)

/-- The character that an escape stands for, behind its backslash. -/
def readEscape (cursor : Cursor) : Attempt (Behind Char) :=
  match cursor.rest with
  | [] => cursor.failBehind .endInString
  | c :: _ =>
    let next := cursor.skip 1
    match c with
    | '"' => .ok ('"', next)
    | '\\' => .ok ('\\', next)
    | '/' => .ok ('/', next)
    | 'b' => .ok ('\x08', next)
    | 'f' => .ok ('\x0c', next)
    | 'n' => .ok ('\n', next)
    | 'r' => .ok ('\r', next)
    | 't' => .ok ('\t', next)
    | 'u' => readUnits next
    | _ => cursor.failAhead .badEscape

/-- The rest of a string up to its closing quote, behind the characters read
so far, which are given last first. -/
def readChars (before : List Char) : Nat → Cursor → Attempt (Behind String)
  | 0, cursor => cursor.failBehind .endInString
  | steps + 1, cursor =>
    match cursor.rest with
    | [] => cursor.failBehind .endInString
    | '"' :: _ => .ok (String.ofList before.reverse, cursor.skip 1)
    | '\\' :: _ => do
      let (c, cursor) ← readEscape (cursor.skip 1)
      readChars (c :: before) steps cursor
    | c :: _ =>
      if c.toNat < 0x20 then cursor.failAhead .controlInString
      else readChars (c :: before) steps (cursor.skip 1)

/-- A string behind its opening quote. -/
def readString (cursor : Cursor) : Attempt (Behind String) :=
  readChars [] cursor.steps cursor

/-! ## Arrays and objects -/

/-- The items of an array up to its end, behind its bracket and the items
read so far, which are given last first. -/
def readItems (value : Cursor → Attempt (Behind Json)) (before : List Json) :
    Nat → Cursor → Attempt (Behind (List Json))
  | 0, cursor => cursor.failBehind .endInArray
  | steps + 1, cursor => do
    let cursor := cursor.skipBlanks
    match cursor.rest with
    | [] => cursor.failAhead .endInArray
    | ']' :: _ => .ok (before.reverse, cursor.skip 1)
    | c :: _ =>
      if before.isEmpty then
        let (item, cursor) ← value cursor
        readItems value [item] steps cursor
      else if c = ',' then
        let cursor := (cursor.skip 1).skipBlanks
        match cursor.rest with
        | [] => cursor.failAhead .endInValue
        | ']' :: _ => cursor.failAhead .trailingComma
        | _ :: _ =>
          let (item, cursor) ← value cursor
          readItems value (item :: before) steps cursor
      else cursor.failAhead .noCommaInArray

/-- A member of an object, from its name on. -/
def readMember (value : Cursor → Attempt (Behind Json)) (cursor : Cursor) :
    Attempt (Behind Member) :=
  match cursor.rest with
  | [] => cursor.failAhead .endInValue
  | '}' :: _ => cursor.failAhead .trailingComma
  | '"' :: _ => do
    let (name, cursor) ← readString (cursor.skip 1)
    let cursor := cursor.skipBlanks
    match cursor.rest with
    | [] => cursor.failAhead .endInObject
    | ':' :: _ =>
      let (item, cursor) ← value (cursor.skip 1)
      .ok ((name, item), cursor)
    | _ :: _ => cursor.failAhead .noColon
  | _ :: _ => cursor.failAhead .keyNotString

/-- The members of an object up to its end, behind its brace and the members
read so far, which are given last first. -/
def readMembers (value : Cursor → Attempt (Behind Json)) (before : List Member) :
    Nat → Cursor → Attempt (Behind (List Member))
  | 0, cursor => cursor.failBehind .endInObject
  | steps + 1, cursor => do
    let cursor := cursor.skipBlanks
    match cursor.rest with
    | [] => cursor.failAhead .endInObject
    | '}' :: _ => .ok (before.reverse, cursor.skip 1)
    | c :: _ =>
      if before.isEmpty then
        let (member, cursor) ← readMember value cursor
        readMembers value [member] steps cursor
      else if c = ',' then
        let (member, cursor) ← readMember value (cursor.skip 1).skipBlanks
        readMembers value (member :: before) steps cursor
      else cursor.failAhead .noCommaInObject

/-! ## Values -/

/-- A value, given the way to read the arrays and objects in it, whose
opening bracket is still ahead. -/
def readWith (container : Cursor → Attempt (Behind Json)) (cursor : Cursor) :
    Attempt (Behind Json) :=
  let cursor := cursor.skipBlanks
  match cursor.rest with
  | [] => cursor.failAhead .endInValue
  | 'n' :: _ => readLiteral .null "ull".toList (cursor.skip 1)
  | 't' :: _ => readLiteral (.bool true) "rue".toList (cursor.skip 1)
  | 'f' :: _ => readLiteral (.bool false) "alse".toList (cursor.skip 1)
  | '-' :: _ => readNumber true (cursor.skip 1)
  | '"' :: _ => do
    let (s, cursor) ← readString (cursor.skip 1)
    .ok (.scalar (.string s), cursor)
  | '[' :: _ => container cursor
  | '{' :: _ => container cursor
  | c :: _ =>
    if isDigit c then readNumber false cursor else cursor.failAhead .noValue

/-- An array or object, given the way to read the values in it. -/
def readContainer (value : Cursor → Attempt (Behind Json)) (cursor : Cursor) :
    Attempt (Behind Json) := do
  let inside := cursor.skip 1
  if cursor.rest.head? = some '[' then
    let (items, cursor) ← readItems value [] inside.steps inside
    .ok (.array items, cursor)
  else
    let (members, cursor) ← readMembers value [] inside.steps inside
    .ok (.object members, cursor)

/-- A value with arrays and objects nested at most `levels` deep in it. -/
def readValue : Nat → Cursor → Attempt (Behind Json)
  | 0 => readWith fun cursor => cursor.failAhead .tooDeep
  | levels + 1 => readWith (readContainer (readValue levels))

/-- The deepest nesting that is read. -/
def nestingLimit : Nat := 127

/-- The value that is all of a text. -/
def ofText (s : String) : Except SyntaxError Json := do
  let (value, cursor) ← readValue nestingLimit (.ofText s)
  let cursor := cursor.skipBlanks
  if cursor.rest.isEmpty then .ok value else cursor.failAhead .trailingText

end IndexerSettings.Json
