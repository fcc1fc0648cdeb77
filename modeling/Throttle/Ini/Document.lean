import Throttle.Text.Quote
import Throttle.Text.Space

/-!
# INI documents

An INI document is a list of sections, each a list of key/value pairs; the pairs before
the first `[section]` header belong to a general section without a name.

The text is read one character at a time:

* white space between items is skipped, line breaks included;
* `;` or `#` starts a comment to the end of the line, but only as the first character
  of a line: one further on is refused, as comments may not follow an item;
* `[` starts a header, whose name runs to the next `]`, across lines;
* any other character starts a key, which runs to the next `=` or `:`, across lines;
* the value after `=` or `:` runs to the end of the line, or, when it starts with a
  double or single quote, to the matching quote and then to the end of the line.

Names, keys and values are trimmed of white space, and a backslash escapes the next
character: `\0`, `\a`, `\b`, `\t`, `\r` and `\n` stand for control characters, `\x`
with four hexadecimal digits for a character, a backslash before a line break joins the
lines, and before any other character stands for that character. A key may be given
twice in a section, and a section may be given twice: both are kept, in order.

An error names the line and the column of the character where it was found, each
counted from 1; the end of the text counts as the place after the last character read,
which is the start of a line when the text ends with a line break.
-/

namespace Throttle

namespace Ini

/-- A place in the text: the characters from the current one on, the number of line
breaks read, and the column of the current character, which is 0 on a line break. -/
structure Cursor where
  rest : List Char
  line : Nat := 0
  column : Nat := 0
deriving Inhabited

namespace Cursor

/-- The current character, if the text has not ended. -/
def current (c : Cursor) : Option Char := c.rest.head?

/-- The place of the character that follows `cs`'s first, given the place of the first. -/
def advance (line column : Nat) : List Char → Cursor
  | [] => { rest := [], line := line, column := column }
  | '\n' :: rest => { rest := '\n' :: rest, line := line + 1, column := 0 }
  | c :: rest => { rest := c :: rest, line := line, column := column + 1 }

/-- Move to the next character. -/
def next (c : Cursor) : Cursor :=
  match c.rest with
  | [] => c
  | _ :: rest => advance c.line c.column rest

/-- The first character of a text. -/
def start (text : String) : Cursor := advance 0 0 text.toList

end Cursor

/-- A syntax error, at its line and column, each counted from 1. -/
structure Fault where
  line : Nat
  column : Nat
  message : String
deriving Inhabited

/-- The report of an error. -/
def Fault.render (f : Fault) : String :=
  toString f.line ++ ":" ++ toString f.column ++ " " ++ f.message

/-- An error at the current character. -/
def Cursor.fault (c : Cursor) (message : String) : Fault :=
  { line := c.line + 1, column := c.column + 1, message := message }

/-- A character as a character literal is shown in diagnostics. -/
def charLiteral (c : Char) : String :=
  if c = '\'' then "'\\''"
  else if c = '"' then "'\"'"
  else "'" ++ Text.escapeChar c ++ "'"

/-- A possible character as diagnostics show it: `Some('c')` or `None`. -/
def optionLiteral : Option Char → String
  | some c => "Some(" ++ charLiteral c ++ ")"
  | none => "None"

/-- The error of a text that ends before one of `ends`. -/
def endedBefore (ends : List (Option Char)) : String :=
  "expecting \"[" ++ ", ".intercalate (ends.map optionLiteral) ++ "]\" but found EOF."

/-- The value of four hexadecimal digits, with an optional plus sign before them. -/
def hexValue? (code : List Char) : Option Nat :=
  let digits := match code with
    | '+' :: rest@(_ :: _) => rest
    | cs => cs
  if digits.isEmpty then none
  else digits.foldlM (fun acc d =>
    if d.isDigit then some (acc * 16 + (d.toNat - '0'.toNat))
    else if 'a' ≤ d && d ≤ 'f' then some (acc * 16 + (d.toNat - 'a'.toNat + 10))
    else if 'A' ≤ d && d ≤ 'F' then some (acc * 16 + (d.toNat - 'A'.toNat + 10))
    else none) 0

/-- The four characters of a `\x` escape, read after the `x`: each is the next
character, and one that is a backslash must be followed by a line break. -/
def hexCode (ends : List (Option Char)) :
    Nat → Cursor → List Char → Except Fault (List Char × Cursor)
  | 0, c, code => .ok (code.reverse, c)
  | n + 1, c, code => do
    let c := c.next
    match c.current with
    | none => throw (c.fault (endedBefore ends))
    | some '\\' =>
      let c := c.next
      if c.current != some '\n' then
        throw (c.fault
          ("expecting \"\\\\\\n\" but found \"" ++ optionLiteral c.current ++ "\"."))
      hexCode ends n c ('\\' :: code)
    | some d => hexCode ends n c (d :: code)

/-- The character a backslash escape stands for, read at the character after the
backslash; `none` for a line break, which stands for nothing. -/
def escape (ends : List (Option Char)) (c : Cursor) : Except Fault (Option Char × Cursor) :=
  match c.current with
  | none => throw (c.fault (endedBefore ends))
  | some '0' => pure (some '\x00', c)
  | some 'a' => pure (some '\x07', c)
  | some 'b' => pure (some '\x08', c)
  | some 't' => pure (some '\t', c)
  | some 'r' => pure (some '\r', c)
  | some 'n' => pure (some '\n', c)
  | some '\n' => pure (none, c)
  | some 'x' => do
    let (code, c) ← hexCode ends 4 c []
    match hexValue? code with
    | some v =>
      if v.isValidChar then pure (some (Char.ofNat v), c)
      else throw (c.fault "unknown character in \\xHH form")
    | none => throw (c.fault "unknown character in \\xHH form")
  | some e => pure (some e, c)

/-- The text up to the first of `ends` (a character, or the end of the text as `none`),
with its escapes; the cursor is left at that end. -/
def readUntil (ends : List (Option Char)) : Nat → Cursor → List Char →
    Except Fault (String × Cursor)
  | 0, c, acc => .ok (String.ofList acc.reverse, c)
  | n + 1, c, acc =>
    if ends.contains c.current then .ok (String.ofList acc.reverse, c)
    else
      match c.current with
      | none => .error (c.fault (endedBefore ends))
      | some '\\' => do
        let (e, c) ← escape ends c.next
        readUntil ends n c.next (match e with
          | some e => e :: acc
          | none => acc)
      | some ch => readUntil ends n c.next (ch :: acc)

/-- The ends of a value: the end of its line, or of the text. -/
def lineEnds : List (Option Char) := [some '\n', some '\r', none]

/-- Skip white space, line breaks included. -/
def skipSpace : Nat → Cursor → Cursor
  | 0, c => c
  | n + 1, c =>
    match c.current with
    | some ch => if Text.isSpace ch then skipSpace n c.next else c
    | none => c

/-- Skip white space up to a line break. -/
def skipBlanks : Nat → Cursor → Cursor
  | 0, c => c
  | n + 1, c =>
    match c.current with
    | some ch =>
      if ch == '\t' || (ch != '\n' && ch != '\r' && Text.isSpace ch) then skipBlanks n c.next
      else c
    | none => c

/-- Skip a comment, with the line break that ends it. -/
def skipComment : Nat → Cursor → Cursor
  | 0, c => c
  | n + 1, c =>
    match c.current with
    | some '\n' => c.next
    | some _ => skipComment n c.next
    | none => c

/-- The value after an `=` or `:` at the cursor, untrimmed. -/
def value (fuel : Nat) (c : Cursor) : Except Fault (String × Cursor) := do
  let c := skipBlanks fuel c.next
  match c.current with
  | none => pure ("", c)
  | some '"' => quoted '"' c
  | some '\'' => quoted '\'' c
  | _ => readUntil lineEnds fuel c []
where
  /-- A quoted value, and the rest of its line. -/
  quoted (q : Char) (c : Cursor) : Except Fault (String × Cursor) := do
    let (inner, c) ← readUntil [some q] fuel c.next []
    let (tail, c) ← readUntil lineEnds fuel c.next []
    pure (inner ++ tail, c)

/-- A section: its name, none for the general section, and its pairs in order. -/
structure Section where
  name : Option String
  pairs : List (String × String)
deriving Inhabited

/-- Add a pair to the last section. -/
def addPair (sections : List Section) (k v : String) : List Section :=
  match sections.reverse with
  | [] => [{ name := none, pairs := [(k, v)] }]
  | s :: before => (before.reverse ++ [{ s with pairs := s.pairs ++ [(k, v)] }])

/-- The items of a document from the cursor on, after the sections read so far; `key` is
a key read and waiting for its value. -/
def items (fuel : Nat) : Nat → Cursor → List Section → String → Except Fault (List Section)
  | 0, _, sections, _ => .ok sections
  | n + 1, c, sections, key => do
    let c := skipSpace fuel c
    match c.current with
    | none => pure sections
    | some ';' | some '#' =>
      if c.column > 1 then throw (c.fault " doesn't support inline comment")
      items fuel n (skipComment fuel c) sections key
    | some '[' =>
      let (name, c) ← readUntil [some ']'] fuel c.next []
      items fuel n c.next (sections ++ [{ name := some (Text.trim name), pairs := [] }]) key
    | some '=' | some ':' =>
      if key.isEmpty then throw (c.fault "missing key")
      let (v, c) ← value fuel c
      items fuel n c (addPair sections key (Text.trim v)) ""
    | some _ =>
      let (k, c) ← readUntil [some '=', some ':'] fuel c []
      items fuel n c sections (Text.trim k)

/-- The sections of an INI text, the general one first, or the report of its first
error. -/
def parse (text : String) : Except String (List Section) :=
  let fuel := text.length + 1
  (items fuel fuel (Cursor.start text) [{ name := none, pairs := [] }] "").mapError Fault.render

end Ini

end Throttle
