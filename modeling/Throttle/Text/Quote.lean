import Throttle.Text.Printable

/-!
# Quoted strings

`Text.quote` writes a string between double quotes, as it appears in diagnostic texts:
the quote, the backslash, tab, carriage return, line feed and NUL are escaped with a
backslash, and the marks that extend a grapheme and the characters that are not
printable (see `Text.isPrintable`) as `\u{..}` with lowercase hexadecimal digits. All
other characters stand for themselves.
-/

namespace Throttle

namespace Text

/-- Lowercase hexadecimal digits of `n`, at least one. -/
def hexDigits (n : Nat) : String :=
  String.ofList (Nat.toDigits 16 n)

/-- The escaped form of one character inside a quoted string. -/
def escapeChar (c : Char) : String :=
  if c = '"' then "\\\""
  else if c = '\\' then "\\\\"
  else if c = '\t' then "\\t"
  else if c = '\r' then "\\r"
  else if c = '\n' then "\\n"
  else if c = '\x00' then "\\0"
  else if isGraphemeExtend c || !isPrintable c then "\\u\x7b" ++ hexDigits c.toNat ++ "\x7d"
  else c.toString

/-- The string between double quotes, with its escapes. -/
def quote (s : String) : String :=
  "\"" ++ String.join (s.toList.map escapeChar) ++ "\""

end Text

end Throttle
