/-!
# TOML syntax errors

A syntax error of a TOML document is found at a place and says what went wrong there:
what was being read (`invalid integer`), what could have come instead (`expected
newline, `#``), and a cause (`value is out of range`), each on a line of its own when
present. While the reader still has other ways to go, an error only backtracks; a cut
error ends the reading.

The report of an error names its line and column, shows the line with a mark under the
place, and then the message. The column counts characters from the start of the line,
except when the marked character takes more than one byte, where it counts the bytes
before it; a place at the very end counts as one past the last character.
-/

namespace Throttle

namespace Toml

/-- A syntax error: its place (as the number of characters after it), what was being
read (innermost first), what could have come, its cause, and whether it ends the
reading. -/
structure Fault where
  fromEnd : Nat
  labels : List String := []
  expected : List String := []
  cause : Option String := none
  cut : Bool := false
deriving Inhabited

/-- The message of an error. -/
def Fault.message (f : Fault) : String :=
  let parts :=
    (match f.labels.head? with
      | some l => ["invalid " ++ l]
      | none => []) ++
    (if f.expected.isEmpty then [] else ["expected " ++ ", ".intercalate f.expected]) ++
    (match f.cause with
      | some c => [c]
      | none => [])
  "\n".intercalate parts

/-- The number of characters before the start of the line that holds the character at
`k`, looking only at the characters before it. -/
def lineStartBefore (cs : List Char) (k : Nat) : Nat :=
  let before := cs.take k
  before.length - (before.reverse.takeWhile (· ≠ '\n')).length

/-- The line (from 0) and column (from 0) of the place `k` characters into `cs`. -/
def lineAndColumn (cs : List Char) (k : Nat) : Nat × Nat :=
  if cs.isEmpty then (0, k)
  else if k < cs.length then
    let start := lineStartBefore cs k
    let marked := cs.getD k ' '
    let column :=
      if marked.toNat < 0x80 then k - start
      else (String.ofList ((cs.drop start).take (k - start))).utf8ByteSize
    ((cs.take start).count '\n', column)
  else
    let start := lineStartBefore cs (cs.length - 1)
    ((cs.take start).count '\n', k - start)

/-- The report of an error of the document `text`. -/
def Fault.render (f : Fault) (text : String) : String :=
  let cs := text.toList
  let (line, column) := lineAndColumn cs (cs.length - f.fromEnd)
  let content := (text.splitOn "\n").getD line ""
  let number := toString (line + 1)
  let gutter := String.ofList (List.replicate (number.length + 1) ' ')
  "TOML parse error at line " ++ number ++ ", column " ++ toString (column + 1) ++ "\n" ++
    gutter ++ "|\n" ++
    number ++ " | " ++ content ++ "\n" ++
    gutter ++ "|" ++ String.ofList (List.replicate (column + 1) ' ') ++ "^\n" ++
    f.message ++ "\n"

end Toml

end Throttle
