import Hybrid.Text.Glyph

/-! # Escaped texts

A text in double quotes for descriptions: quotes and backslashes after a backslash, the usual short
forms of line ends and tabs, and code points for all other characters without a glyph.
-/

namespace Hybrid.Text.Escaped

/-- The digits of a number to base sixteen. -/
def hexadecimal (number : Nat) : String :=
  String.ofList (Nat.toDigits 16 number)

/-- A character as it stands in an escaped text. -/
def character (c : Char) : String :=
  if c = '"' then "\\\""
  else if c = '\\' then "\\\\"
  else if c = '\n' then "\\n"
  else if c = '\r' then "\\r"
  else if c = '\t' then "\\t"
  else if c.toNat = 0 then "\\0"
  else if c.toNat < 0x20 || c.toNat = 0x7F || glyphless.contains c then
    "\\u\x7b" ++ hexadecimal c.toNat ++ "\x7d"
  else c.toString

/-- A text in quotes. -/
def quoted (text : String) : String :=
  "\"" ++ String.join (text.toList.map character) ++ "\""

end Hybrid.Text.Escaped
