import IndexerSettings.Text.Visibility

/-!
# Quoted texts

A text in double quotes, with every character that could not be told from
another one, or not be seen, spelled out.
-/

namespace IndexerSettings.Text

/-- A character by its code point, as `\u` and lower-case hexadecimal digits
in braces. -/
def spelled (c : Char) : String :=
  "\\u\x7b" ++ String.ofList (Nat.toDigits 16 c.toNat) ++ "\x7d"

/-- How a character appears between the quotes. -/
def quotedChar (c : Char) : String :=
  match c with
  | '\x00' => "\\0"
  | '\t' => "\\t"
  | '\n' => "\\n"
  | '\r' => "\\r"
  | '"' => "\\\""
  | '\\' => "\\\\"
  | c => if isExtending c || isInvisible c then spelled c else c.toString

/-- A text in double quotes. -/
def quoted (s : String) : String :=
  "\"" ++ String.join (s.toList.map quotedChar) ++ "\""

end IndexerSettings.Text
