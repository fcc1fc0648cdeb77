import Throttle.Text.Category

/-!
# The JSON5 grammar

A JSON5 text is one value between white space and comments: `null`, `true` or `false`,
a string in double or single quotes, a number, an object or an array. Objects and arrays
may end with a comma; object keys are strings or names made of letters, `$`, `_`, marks,
digits and connectors (`\u` escapes included); numbers may have a sign, be hexadecimal,
start or end with a point, or be `Infinity` or `NaN`. A string may hold escapes, a
backslash before a line break that joins the lines, but no bare line break.

The reader is a parsing expression grammar: alternatives are tried in order, the first
that matches wins, and nothing is read twice to the same end. When the text does not
match, the error names the furthest place where one of the grammar's named rules
(`Rule`) was tried and failed, and the rules that failed there. A rule that fails after
exactly one of the rules inside it failed at its own start leaves that one in its stead;
a rule whose failure is not the furthest is forgotten.
-/

namespace Throttle

namespace Json5

/-- The rules of the grammar that errors name, in the order an error lists them. -/
inductive Rule where
  | endOfInput
  | array
  | boolean
  | charEscape
  | charLiteral
  | hexEscape
  | identifier
  | nulEscape
  | null
  | number
  | object
  | string
  | unicodeEscape
deriving DecidableEq, Inhabited

namespace Rule

/-- The place of a rule in the order errors list them. -/
def rank : Rule → Nat
  | endOfInput => 0
  | array => 1
  | boolean => 2
  | charEscape => 3
  | charLiteral => 4
  | hexEscape => 5
  | identifier => 6
  | nulEscape => 7
  | null => 8
  | number => 9
  | object => 10
  | string => 11
  | unicodeEscape => 12

/-- The name of a rule in errors. -/
def name : Rule → String
  | endOfInput => "EOI"
  | array => "array"
  | boolean => "boolean"
  | charEscape => "char_escape_sequence"
  | charLiteral => "char_literal"
  | hexEscape => "hex_escape_sequence"
  | identifier => "identifier"
  | nulEscape => "nul_escape_sequence"
  | null => "null"
  | number => "number"
  | object => "object"
  | string => "string"
  | unicodeEscape => "unicode_escape_sequence"

end Rule

/-- A part of a string or a name as written: a character, an escaped character, the
`\0` escape, or the hexadecimal digits of a `\x` or `\u` escape. -/
inductive Piece where
  | char (c : Char)
  | escape (c : Char)
  | nul
  | code (digits : List Char)
deriving Inhabited

/-- A value as written. Numbers keep their text; keys are the pieces of a string or a
name. -/
inductive Node where
  | null
  | bool (b : Bool)
  | text (pieces : List Piece)
  | number (text : String)
  | array (items : List Node)
  | object (pairs : List (List Piece × Node))
deriving Inhabited

/-- The furthest place where a named rule failed, and the rules that failed there. -/
structure Tracker where
  pos : Nat := 0
  rules : List Rule := []

/-- The number of failures recorded at `p`. -/
def Tracker.count (t : Tracker) (p : Nat) : Nat := if t.pos == p then t.rules.length else 0

/-- Record that rule `r`, tried at `p`, failed; `before` is the number of failures
recorded at `p` when it was tried. -/
def Tracker.fail (t : Tracker) (r : Rule) (p before : Nat) : Tracker :=
  let now := t.count p
  if before < now && now - before == 1 then t
  else
    let t := if p == t.pos then { t with rules := t.rules.take before } else t
    let t := if t.pos < p then { pos := p, rules := [] } else t
    if p == t.pos then { t with rules := t.rules ++ [r] } else t

/-- A reading step: it reads at a place and gives what it read and where that ends, or
nothing; failed rules are recorded as it goes. -/
abbrev Peg := StateM Tracker

/-- Try the rule `r` at `p` with the reading `body`, recording its failure. -/
def rule {α : Type} (r : Rule) (p : Nat) (body : Peg (Option α)) : Peg (Option α) := do
  let before := (← get).count p
  let result ← body
  if result.isNone then modify fun t => t.fail r p before
  pure result

section Reading

variable (cs : Array Char)

/-- The character at `p`. -/
def at? (p : Nat) : Option Char := cs[p]?

/-- The end of the text `s` written at `p`. -/
def literal (s : String) (p : Nat) : Option Nat :=
  if (List.range s.length).all (fun i => cs[p + i]? == s.toList[i]?) then some (p + s.length)
  else none

/-- The first place from `p` on whose character does not satisfy `ok`. -/
def scanWhile (ok : Char → Bool) (p : Nat) : Nat :=
  if h : p < cs.size then
    if ok cs[p] then scanWhile ok (p + 1) else p
  else p
termination_by cs.size - p

/-- Whether a character ends a line. -/
def isLineTerminator (c : Char) : Bool :=
  c == '\n' || c == '\r' || c == '\u2028' || c == '\u2029'

/-- Whether a character is white space between tokens. -/
def isWhite (c : Char) : Bool :=
  c == '\t' || c == '\x0B' || c == '\x0C' || c == ' ' || c == '\xA0' || c == '\uFEFF' ||
    Text.isSpaceSeparator c || isLineTerminator c

/-- The end of the `*/` that closes a block comment, looking from `p` on. -/
def blockCommentEnd (p : Nat) : Option Nat :=
  if h : p < cs.size then
    if cs[p] == '*' && cs[p + 1]? == some '/' then some (p + 2) else blockCommentEnd (p + 1)
  else none
termination_by cs.size - p

/-- The end of a comment at `p`. -/
def commentEnd (p : Nat) : Option Nat :=
  if at? cs p == some '/' then
    match at? cs (p + 1) with
    | some '*' => blockCommentEnd cs (p + 2)
    | some '/' => some (scanWhile cs (fun c => !isLineTerminator c) (p + 2))
    | _ => none
  else none

/-- The place after the white space and comments from `p` on. -/
def skip : Nat → Nat → Nat
  | 0, p => p
  | n + 1, p =>
    match at? cs p with
    | some c =>
      if isWhite c then skip n (p + 1)
      else match commentEnd cs p with
        | some e => skip n e
        | none => p
    | none => p

/-- Skip white space and comments from `p` on. -/
def gap (p : Nat) : Nat := skip cs (cs.size + 1) p

/-- The text from `p` to `e`. -/
def slice (p e : Nat) : String := String.ofList ((cs.toList.drop p).take (e - p))

/-- Whether a character is an ASCII hexadecimal digit. -/
def isHexDigit (c : Char) : Bool :=
  c.isDigit || ('a' ≤ c && c ≤ 'f') || ('A' ≤ c && c ≤ 'F')

/-- Exactly `n` hexadecimal digits at `p`. -/
def hexDigitsAt (p n : Nat) : Option (List Char) :=
  let ds := (List.range n).filterMap fun i => (at? cs (p + i)).filter isHexDigit
  if ds.length == n then some ds else none

/-- The end of digits from `p` on, which may be none. -/
def digitsEnd (p : Nat) : Nat := scanWhile cs Char.isDigit p

/-- The end of an exponent at `p`: `e` or `E`, an optional sign, and digits. -/
def exponentEnd (p : Nat) : Option Nat :=
  if at? cs p == some 'e' || at? cs p == some 'E' then
    let q := if at? cs (p + 1) == some '+' || at? cs (p + 1) == some '-' then p + 2 else p + 1
    let e := digitsEnd cs q
    if q < e then some e else none
  else none

/-- The end of a decimal integer at `p`: `0`, or digits that do not start with `0`. -/
def decimalIntegerEnd (p : Nat) : Option Nat :=
  match at? cs p with
  | some '0' => some (p + 1)
  | some c => if c.isDigit then some (digitsEnd cs (p + 1)) else none
  | none => none

/-- The end of a decimal number at `p`: an integer with a point and maybe digits, a
point with digits, or an integer; then maybe an exponent. -/
def decimalEnd (p : Nat) : Option Nat :=
  let withExponent (e : Nat) := (exponentEnd cs e).getD e
  let pointed := (decimalIntegerEnd cs p).bind fun d =>
    if at? cs d == some '.' then some (withExponent (digitsEnd cs (d + 1))) else none
  let fraction :=
    if at? cs p == some '.' && (at? cs (p + 1)).any Char.isDigit then
      some (withExponent (digitsEnd cs (p + 1)))
    else none
  let whole := (decimalIntegerEnd cs p).map withExponent
  pointed <|> fraction <|> whole

/-- The end of a hexadecimal integer at `p`: `0x` or `0X` and hexadecimal digits. -/
def hexEnd (p : Nat) : Option Nat :=
  if at? cs p == some '0' && (at? cs (p + 1) == some 'x' || at? cs (p + 1) == some 'X') then
    let e := scanWhile cs isHexDigit (p + 2)
    if p + 2 < e then some e else none
  else none

/-- The end of a number at `p`, with its optional sign. -/
def numberEnd (p : Nat) : Option Nat :=
  let q := if at? cs p == some '+' || at? cs p == some '-' then p + 1 else p
  hexEnd cs q <|> decimalEnd cs q <|> literal cs "Infinity" q <|> literal cs "NaN" q

/-- A character that is not a backslash nor a line end, at `p`. -/
def charLiteralAt (p : Nat) : Option (Char × Nat) :=
  match at? cs p with
  | some c => if c == '\\' || isLineTerminator c then none else some (c, p + 1)
  | none => none

/-- Whether a character is escaped by itself or by one of `bfnrtv` after a backslash. -/
def isSingleEscape (c : Char) : Bool :=
  c == '\'' || c == '"' || c == '\\' || c == 'b' || c == 'f' || c == 'n' || c == 'r' ||
    c == 't' || c == 'v'

/-- The character of an escape at `p`: one of the single escapes, or any character
that is not a digit, `x`, `u` nor a line end. -/
def charEscapeAt (p : Nat) : Option Char :=
  match at? cs p with
  | some c =>
    if isSingleEscape c then some c
    else if c.isDigit || c == 'x' || c == 'u' || isLineTerminator c then none
    else some c
  | none => none

/-- The end of a line end at `p`, a carriage return and line feed together. -/
def lineBreakEnd (p : Nat) : Option Nat :=
  if at? cs p == some '\r' && at? cs (p + 1) == some '\n' then some (p + 2)
  else match at? cs p with
    | some c => if isLineTerminator c then some (p + 1) else none
    | none => none

/-- An escape after a backslash, at `p`. -/
def escapeSequence (p : Nat) : Peg (Option (Piece × Nat)) := do
  match ← rule .charEscape p (pure (charEscapeAt cs p)) with
  | some c => return some (.escape c, p + 1)
  | none => pure ()
  match ← rule .nulEscape p (pure (if at? cs p == some '0' then some () else none)) with
  | some _ => return some (.nul, p + 1)
  | none => pure ()
  if at? cs p == some 'x' then
    match ← rule .hexEscape (p + 1) (pure (hexDigitsAt cs (p + 1) 2)) with
    | some ds => return some (.code ds, p + 3)
    | none => pure ()
  if at? cs p == some 'u' then
    match ← rule .unicodeEscape (p + 1) (pure (hexDigitsAt cs (p + 1) 4)) with
    | some ds => return some (.code ds, p + 5)
    | none => pure ()
  pure none

/-- One character of a string quoted by `q`, at `p`: its piece (none for a line
continuation) and its end; nothing at the closing quote or where no character fits. -/
def quotedChar (q : Char) (p : Nat) : Peg (Option (Option Piece × Nat)) := do
  if at? cs p == some '\\' then
    match ← escapeSequence cs (p + 1) with
    | some (piece, e) => return some (some piece, e)
    | none => pure ()
    match lineBreakEnd cs (p + 1) with
    | some e => return some (none, e)
    | none => pure ()
  if at? cs p == some q then return none
  match ← rule .charLiteral p (pure (charLiteralAt cs p)) with
  | some (c, e) => pure (some (some (.char c), e))
  | none => pure none

/-- The characters of a string quoted by `q` from `p` on, to its closing quote. -/
def quotedRest (q : Char) : Nat → Nat → List Piece → Peg (Option (List Piece × Nat))
  | 0, _, _ => pure none
  | n + 1, p, acc => do
    match ← quotedChar cs q p with
    | some (piece, e) => quotedRest q n e (match piece with
      | some x => x :: acc
      | none => acc)
    | none =>
      if at? cs p == some q then pure (some (acc.reverse, p + 1)) else pure none

/-- A string at `p`. -/
def string (p : Nat) : Peg (Option (List Piece × Nat)) :=
  rule .string p do
    match at? cs p with
    | some '"' => quotedRest cs '"' (cs.size + 1) (p + 1) []
    | some '\'' => quotedRest cs '\'' (cs.size + 1) (p + 1) []
    | _ => pure none

/-- The first character of a name at `p`: a letter, `$` or `_`, or a `\u` escape. -/
def nameStart (p : Nat) : Peg (Option (Piece × Nat)) := do
  match at? cs p with
  | some c =>
    if Text.isLetter c || c == '$' || c == '_' then
      match ← rule .charLiteral p (pure (charLiteralAt cs p)) with
      | some (c, e) => return some (.char c, e)
      | none => pure ()
  | none => pure ()
  if at? cs p == some '\\' && at? cs (p + 1) == some 'u' then
    match ← rule .unicodeEscape (p + 2) (pure (hexDigitsAt cs (p + 2) 4)) with
    | some ds => return some (.code ds, p + 6)
    | none => pure ()
  pure none

/-- A further character of a name at `p`: one that may start it, a mark, a digit, a
connector, or a zero-width joiner or non-joiner. -/
def namePart (p : Nat) : Peg (Option (Piece × Nat)) := do
  match ← nameStart cs p with
  | some r => return some r
  | none => pure ()
  match at? cs p with
  | some c =>
    if Text.isNamePart c || c == '\u200C' || c == '\u200D' then
      match ← rule .charLiteral p (pure (charLiteralAt cs p)) with
      | some (c, e) => pure (some (.char c, e))
      | none => pure none
    else pure none
  | none => pure none

/-- The further characters of a name from `p` on. -/
def nameRest : Nat → Nat → List Piece → Peg (List Piece × Nat)
  | 0, p, acc => pure (acc.reverse, p)
  | n + 1, p, acc => do
    match ← namePart cs p with
    | some (piece, e) => nameRest n e (piece :: acc)
    | none => pure (acc.reverse, p)

/-- A name at `p`. -/
def identifier (p : Nat) : Peg (Option (List Piece × Nat)) :=
  rule .identifier p do
    match ← nameStart cs p with
    | some (piece, e) => some <$> nameRest cs (cs.size + 1) e [piece]
    | none => pure none

/-- A key at `p`: a name or a string. -/
def key (p : Nat) : Peg (Option (List Piece × Nat)) := do
  match ← identifier cs p with
  | some r => pure (some r)
  | none => string cs p

/-- `true` or `false` at `p`. -/
def booleanAt (p : Nat) : Option (Bool × Nat) :=
  match literal cs "true" p with
  | some e => some (true, e)
  | none => (literal cs "false" p).map fun e => (false, e)

mutual

/-- A value at `p`. -/
def value : Nat → Nat → Peg (Option (Node × Nat))
  | 0, _ => pure none
  | n + 1, p => do
    match ← rule .null p (pure (literal cs "null" p)) with
    | some e => return some (.null, e)
    | none => pure ()
    match ← rule .boolean p (pure (booleanAt cs p)) with
    | some (b, e) => return some (.bool b, e)
    | none => pure ()
    match ← string cs p with
    | some (ps, e) => return some (.text ps, e)
    | none => pure ()
    match ← rule .number p (pure (numberEnd cs p)) with
    | some e => return some (.number (slice cs p e), e)
    | none => pure ()
    match ← object n p with
    | some r => return some r
    | none => pure ()
    array n p

/-- A key, a colon and a value at `p`. -/
def pair : Nat → Nat → Peg (Option ((List Piece × Node) × Nat))
  | 0, _ => pure none
  | n + 1, p => do
    match ← key cs p with
    | none => pure none
    | some (k, e) =>
      let q := gap cs e
      if at? cs q != some ':' then return none
      match ← value n (gap cs (q + 1)) with
      | some (v, e) => pure (some ((k, v), e))
      | none => pure none

/-- The pairs after the first of an object, each after a comma, from `p` on. -/
def morePairs : Nat → Nat → List (List Piece × Node) → Peg (List (List Piece × Node) × Nat)
  | 0, p, acc => pure (acc.reverse, p)
  | n + 1, p, acc => do
    let q := gap cs p
    if at? cs q != some ',' then return (acc.reverse, p)
    match ← pair n (gap cs (q + 1)) with
    | some (kv, e) => morePairs n e (kv :: acc)
    | none => pure (acc.reverse, p)

/-- An object at `p`. -/
def object : Nat → Nat → Peg (Option (Node × Nat))
  | 0, _ => pure none
  | n + 1, p =>
    rule .object p do
      if at? cs p != some '{' then return none
      let q := gap cs (p + 1)
      if at? cs q == some '}' then return some (.object [], q + 1)
      match ← pair n q with
      | none => pure none
      | some (first, e) =>
        let (pairs, e) ← morePairs n e [first]
        let e := gap cs e
        let e := if at? cs e == some ',' then gap cs (e + 1) else e
        if at? cs e == some '}' then pure (some (.object pairs, e + 1)) else pure none

/-- The items after the first of an array, each after a comma, from `p` on. -/
def moreItems : Nat → Nat → List Node → Peg (List Node × Nat)
  | 0, p, acc => pure (acc.reverse, p)
  | n + 1, p, acc => do
    let q := gap cs p
    if at? cs q != some ',' then return (acc.reverse, p)
    match ← value n (gap cs (q + 1)) with
    | some (v, e) => moreItems n e (v :: acc)
    | none => pure (acc.reverse, p)

/-- An array at `p`. -/
def array : Nat → Nat → Peg (Option (Node × Nat))
  | 0, _ => pure none
  | n + 1, p =>
    rule .array p do
      if at? cs p != some '[' then return none
      let q := gap cs (p + 1)
      if at? cs q == some ']' then return some (.array [], q + 1)
      match ← value n q with
      | none => pure none
      | some (first, e) =>
        let (items, e) ← moreItems n e [first]
        let e := gap cs e
        let e := if at? cs e == some ',' then gap cs (e + 1) else e
        if at? cs e == some ']' then pure (some (.array items, e + 1)) else pure none

end

/-- The value of the whole text, between white space and comments. -/
def document : Peg (Option Node) := do
  match ← value cs (4 * cs.size + 4) (gap cs 0) with
  | none => pure none
  | some (v, e) =>
    let q := gap cs e
    match ← rule .endOfInput q (pure (if q == cs.size then some () else none)) with
    | some _ => pure (some v)
    | none => pure none

end Reading

/-- The rules of an error, each once, in the order errors list them. -/
def sortRules (rs : List Rule) : List Rule :=
  let sorted := rs.mergeSort fun a b => a.rank ≤ b.rank
  sorted.foldr (fun r acc => if acc.head? == some r then acc else r :: acc) []

/-- The rule names of an error: `a`, `a or b`, `a, b, or c`. -/
def listRules : List Rule → String
  | [] => ""
  | [a] => a.name
  | [a, b] => a.name ++ " or " ++ b.name
  | rs => ", ".intercalate ((rs.dropLast).map Rule.name) ++ ", or " ++
      ((rs.getLast?.map Rule.name).getD "")

/-- The line (from 1) and column (from 1) of the character at `p`: a carriage return
before a line feed ends a line with it, a lone one is an ordinary character. -/
def lineColumn : List Char → Nat → Nat × Nat → Nat × Nat
  | _, 0, lc => lc
  | [], _, lc => lc
  | '\r' :: '\n' :: rest, n + 1, (l, c) =>
    if n = 0 then (l, c + 1) else lineColumn rest (n - 1) (l + 1, 1)
  | '\n' :: rest, n + 1, (l, _) => lineColumn rest n (l + 1, 1)
  | _ :: rest, n + 1, (l, c) => lineColumn rest n (l, c + 1)

/-- The report of a syntax error at `p` of the text `cs` with the rules that failed
there. The line of the place is shown with a mark under it; when the place is a line
end, the line's line ends are shown as visible symbols. -/
def report (cs : List Char) (p : Nat) (rules : List Rule) : String :=
  let (line, column) := lineColumn cs p (1, 1)
  let before := cs.take p
  let start := before.length - (before.reverse.takeWhile (· != '\n')).length
  let after := cs.drop p
  let lineEnd := match after.findIdx? (· == '\n') with
    | some i => p + i + 1
    | none => cs.length
  let shown := (cs.drop start).take (lineEnd - start)
  let visible := cs[p]? == some '\n' || cs[p]? == some '\r'
  let text := if visible then
      String.join (shown.map fun c =>
        if c == '\r' then "\u240D" else if c == '\n' then "\u240A" else c.toString)
    else String.ofList (shown.filter fun c => c != '\r' && c != '\n')
  let number := toString line
  let pad := String.ofList (List.replicate number.length ' ')
  let under := String.ofList ((text.toList.take (column - 1)).map fun c =>
    if c == '\t' then '\t' else ' ')
  let message := match sortRules rules with
    | [] => "unknown parsing error"
    | rs => "expected " ++ listRules rs
  pad ++ "--> " ++ number ++ ":" ++ toString column ++ "\n" ++
    pad ++ " |\n" ++
    number ++ " | " ++ text ++ "\n" ++
    pad ++ " | " ++ under ++ "^---\n" ++
    pad ++ " |\n" ++
    pad ++ " = " ++ message

/-- The value a JSON5 text holds, or the report of why it does not match the grammar. -/
def parse (text : String) : Except String Node :=
  let cs := text.toList
  match (document cs.toArray).run {} with
  | (some v, _) => .ok v
  | (none, t) => .error (report cs t.pos t.rules)

end Json5

end Throttle
