/-!
# YAML tokens

The tokens of a YAML character stream, each with the position where it starts. A
position counts characters from zero, lines from one and columns from zero; a syntax
error is reported with its position as `at byte I line L column C`, the column counted
from one.

A text is read under one of two revisions of YAML, its `Dialect`. Under YAML 1.1 the
characters NEL, LS and PS break lines too, and control characters are refused; under
YAML 1.2 only line feeds and carriage returns break lines.
-/

namespace Throttle

namespace Yaml

/-- A position in the text. -/
structure Mark where
  index : Nat
  line : Nat
  col : Nat
deriving DecidableEq, Inhabited

/-- The start of a text. -/
def Mark.start : Mark := ⟨0, 1, 0⟩

/-- A syntax error and where it was found. -/
structure SyntaxError where
  mark : Mark
  info : String
deriving Inhabited

/-- The wording of a syntax error. -/
def SyntaxError.message (e : SyntaxError) : String :=
  e.info ++ " at byte " ++ toString e.mark.index ++ " line " ++ toString e.mark.line ++
    " column " ++ toString (e.mark.col + 1)

/-- How a scalar is written. -/
inductive ScalarStyle where
  | plain
  | singleQuoted
  | doubleQuoted
  | literal
  | folded
deriving DecidableEq, Inhabited

/-- What a token is. -/
inductive TokenKind where
  | streamStart
  | streamEnd
  | versionDirective (major minor : Nat)
  | tagDirective (handle pfx : String)
  | documentStart
  | documentEnd
  | blockSequenceStart
  | blockMappingStart
  | blockEnd
  | flowSequenceStart
  | flowSequenceEnd
  | flowMappingStart
  | flowMappingEnd
  | blockEntry
  | flowEntry
  | key
  | value
  | alias (name : String)
  | anchor (name : String)
  | tag (handle suffix : String)
  | scalar (style : ScalarStyle) (text : String)
deriving Inhabited

/-- A token and where it starts. -/
structure Token where
  mark : Mark
  kind : TokenKind
deriving Inhabited

/-- The revision of YAML a text is read under. -/
inductive Dialect where
  | yaml11
  | yaml12
deriving DecidableEq, Inhabited

/-- A space or a tab. -/
def isBlank (c : Char) : Bool := c == ' ' || c == '\t'

/-- A line feed or a carriage return. -/
def isBreak (c : Char) : Bool := c == '\n' || c == '\r'

/-- The end of the text, also written as a NUL character. -/
def isEnd (c : Char) : Bool := c == '\x00'

/-- A line break or the end of the text. -/
def isBreakOrEnd (c : Char) : Bool := isBreak c || isEnd c

/-- A blank, a line break or the end of the text. -/
def isBlankOrEnd (c : Char) : Bool := isBlank c || isBreakOrEnd c

/-- A line break of the dialect: a line feed or a carriage return, and under YAML 1.1
also NEL, LS and PS. -/
def Dialect.isBreak : Dialect → Char → Bool
  | .yaml11, c => Yaml.isBreak c || c == '\u0085' || c == '\u2028' || c == '\u2029'
  | .yaml12, c => Yaml.isBreak c

/-- A line break of the dialect or the end of the text. -/
def Dialect.isBreakOrEnd (d : Dialect) (c : Char) : Bool := d.isBreak c || isEnd c

/-- A blank, a line break of the dialect or the end of the text. -/
def Dialect.isBlankOrEnd (d : Dialect) (c : Char) : Bool := isBlank c || d.isBreakOrEnd c

/-- A character YAML 1.1 allows in a text: tab, line feed, carriage return, the
printable ASCII characters, NEL, and the characters from U+A0 on except the surrogates
and U+FFFE and U+FFFF. -/
def isAllowedChar (c : Char) : Bool :=
  let v := c.toNat
  v == 0x09 || v == 0x0A || v == 0x0D || (0x20 ≤ v && v ≤ 0x7E) || v == 0x85 ||
    (0xA0 ≤ v && v ≤ 0xD7FF) || (0xE000 ≤ v && v ≤ 0xFFFD) || 0x10000 ≤ v

/-- A character that delimits flow collections. -/
def isFlowIndicator (c : Char) : Bool :=
  c == ',' || c == '[' || c == ']' || c == '{' || c == '}'

/-- An ASCII letter or digit, a hyphen or an underscore. -/
def isWordChar (c : Char) : Bool := c.isAlphanum || c == '-' || c == '_'

/-- A hexadecimal digit. -/
def isHexDigit (c : Char) : Bool :=
  c.isDigit || ('a' ≤ c && c ≤ 'f') || ('A' ≤ c && c ≤ 'F')

/-- The value of a hexadecimal digit. -/
def hexDigitValue (c : Char) : Nat :=
  if c.isDigit then c.toNat - '0'.toNat
  else if 'a' ≤ c && c ≤ 'f' then c.toNat - 'a'.toNat + 10
  else c.toNat - 'A'.toNat + 10

end Yaml

end Throttle
