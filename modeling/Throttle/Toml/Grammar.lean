import Throttle.Toml.Value
import Throttle.Toml.Fault
import Throttle.Binary64.Read

/-!
# The TOML grammar

The pieces of a TOML document read one after another from the text: blanks and
comments, keys, and values (strings in their four kinds, integers, floats, booleans,
date-times, arrays and inline tables).

A reading step that fails backtracks, so that another way can be tried from the same
place, unless it is cut. Where several ways are tried, the error of the last one is
kept. Steps that check what they read after reading it (that a month is from 1 to 12,
that an integer fits 64 bits) fail at the place where what they read starts. Arrays and
inline tables nest at most 79 deep.
-/

namespace Throttle

namespace Toml

/-- The text left to read. -/
structure Cursor where
  rest : List Char

/-- A reading step. -/
abbrev Parse := StateT Cursor (Except Fault)

namespace Parse

/-- The place reached, as the number of characters left. -/
def here : Parse Nat := return (← get).rest.length

/-- The next character, if any, without reading it. -/
def peek? : Parse (Option Char) := return (← get).rest.head?

/-- The next `n` characters, without reading them. -/
def peekN (n : Nat) : Parse (List Char) := return (← get).rest.take n

/-- Backtrack here, saying nothing. -/
def backtrack {α : Type} : Parse α := do throw { fromEnd := ← here }

/-- Fail at the place `start` with a cause. -/
def refuseAt {α : Type} (start : Nat) (cause : Option String) : Parse α :=
  throw { fromEnd := start, cause := cause }

/-- `p`, or else `q` from the same place when `p` backtracks. -/
def orElse {α : Type} (p q : Parse α) : Parse α := fun s =>
  match p s with
  | .error f => if f.cut then .error f else q s
  | r => r

/-- `p`, naming what it reads in its errors. -/
def label {α : Type} (l : String) (p : Parse α) : Parse α := fun s =>
  match p s with
  | .error f => .error { f with labels := f.labels ++ [l] }
  | r => r

/-- `p`, saying in its errors what could have come. -/
def expecting {α : Type} (es : List String) (p : Parse α) : Parse α := fun s =>
  match p s with
  | .error f => .error { f with expected := f.expected ++ es }
  | r => r

/-- `p`, with its errors cut. -/
def cut {α : Type} (p : Parse α) : Parse α := fun s =>
  match p s with
  | .error f => .error { f with cut := true }
  | r => r

/-- `p`, or nothing from the same place when it backtracks. -/
def optional {α : Type} (p : Parse α) : Parse (Option α) := fun s =>
  match p s with
  | .ok (a, s') => .ok (some a, s')
  | .error f => if f.cut then .error f else .ok (none, s)

/-- `p`, and the text it read. -/
def recognize {α : Type} (p : Parse α) : Parse (List Char) := fun s =>
  match p s with
  | .ok (_, s') => .ok (s.rest.take (s.rest.length - s'.rest.length), s')
  | .error f => .error f

/-- Read one character. -/
def anyChar : Parse Char := do
  match (← get).rest with
  | c :: r => set (Cursor.mk r); pure c
  | [] => backtrack

/-- Read one character that satisfies `p`. -/
def charIf (p : Char → Bool) : Parse Char := do
  match (← get).rest with
  | c :: r => if p c then do set (Cursor.mk r); pure c else backtrack
  | [] => backtrack

/-- Read the character `c`. -/
def char (c : Char) : Parse Unit := do let _ ← charIf (· == c)

/-- Read the characters of `lit`. -/
def literal (lit : String) : Parse Unit := do
  let rest := (← get).rest
  if lit.toList.isPrefixOf rest then set (Cursor.mk (rest.drop lit.length)) else backtrack

/-- Read at least `least` and at most `most` characters that satisfy `p`, as many as
there are. -/
def takeWhile (p : Char → Bool) (least : Nat) (most : Option Nat := none) : Parse (List Char) := do
  let rest := (← get).rest
  let run := rest.takeWhile p
  let run := match most with
    | some m => run.take m
    | none => run
  if run.length < least then backtrack
  else
    set (Cursor.mk (rest.drop run.length))
    pure run

/-- The end of the text. -/
def eof : Parse Unit := do if (← get).rest.isEmpty then pure () else backtrack

/-- A bound on the steps of any loop over the rest of the text. -/
def fuel : Parse Nat := return (← get).rest.length + 1

/-- Apply `p` as long as it reads. -/
def many {α : Type} (p : Parse α) : Nat → Parse (List α)
  | 0 => pure []
  | n + 1 => do
    match ← optional p with
    | some a => return a :: (← many p n)
    | none => return []

/-- Items read by `p` and separated by `sep`: the first is required when `least` is set.
A separator whose item does not follow is not read. -/
def separated {α : Type} (p : Parse α) (sep : Parse Unit) (least : Bool) : Parse (List α) := do
  let first ← if least then some <$> p else optional p
  match first with
  | none => pure []
  | some a => return a :: (← many (do sep; p) (← fuel))

end Parse

open Parse

/-! ## Blanks, line ends and comments -/

/-- Spaces and tabs. -/
def ws : Parse Unit := do let _ ← takeWhile (fun c => c == ' ' || c == '\t') 0

/-- A line feed, or a carriage return and a line feed. -/
def newline : Parse Unit := do
  match ← anyChar with
  | '\n' => pure ()
  | '\r' => char '\n'
  | _ => backtrack

/-- A character that a comment may hold: a tab, a visible ASCII character or a space, or
any non-ASCII character. -/
def isCommentChar (c : Char) : Bool :=
  c == '\t' || (0x20 ≤ c.toNat && c.toNat ≤ 0x7e) || 0x80 ≤ c.toNat

/-- A comment up to the end of its line. -/
def comment : Parse Unit := do
  char '#'
  let _ ← takeWhile isCommentChar 0

/-- A line break or the end of the text. -/
def lineEnding : Parse Unit := orElse newline eof

/-- Blanks and a comment up to the end of the line. -/
def lineTrailing : Parse Unit := do
  ws
  let _ ← optional comment
  lineEnding

/-- Blanks, line breaks and comments, each comment ending its line. -/
def wsCommentNewline : Parse Unit := do
  ws
  let rec loop : Nat → Parse Unit
    | 0 => pure ()
    | n + 1 => do
      ws
      match ← peek? with
      | some '#' => comment; newline; loop n
      | some '\n' | some '\r' => newline; loop n
      | _ => pure ()
  loop (← fuel)

/-! ## Strings -/

/-- A character a basic string holds as itself. -/
def isBasicChar (c : Char) : Bool :=
  c == ' ' || c == '\t' || c == '!' || (0x23 ≤ c.toNat && c.toNat ≤ 0x5b) ||
    (0x5d ≤ c.toNat && c.toNat ≤ 0x7e) || 0x80 ≤ c.toNat

/-- A character a literal string holds. -/
def isLiteralChar (c : Char) : Bool :=
  c == '\t' || (0x20 ≤ c.toNat && c.toNat ≤ 0x26) || (0x28 ≤ c.toNat && c.toNat ≤ 0x7e) ||
    0x80 ≤ c.toNat

/-- A hexadecimal digit. -/
def isHexDigit (c : Char) : Bool :=
  c.isDigit || ('a' ≤ c && c ≤ 'f') || ('A' ≤ c && c ≤ 'F')

/-- The number written by digits of a radix up to 16. -/
def digitsValue (radix : Nat) (ds : List Char) : Nat :=
  ds.foldl (fun n c =>
    let d := if c.isDigit then c.toNat - '0'.toNat
      else if 'a' ≤ c && c ≤ 'f' then c.toNat - 'a'.toNat + 10
      else c.toNat - 'A'.toNat + 10
    n * radix + d) 0

/-- Exactly `n` hexadecimal digits naming a Unicode scalar value. -/
def hexEscape (n : Nat) : Parse Char := do
  let start ← here
  let ds ← takeWhile isHexDigit 0 (some n)
  if ds.length != n then refuseAt start none
  let code := digitsValue 16 ds
  if code > 0x10ffff || (0xd800 ≤ code && code ≤ 0xdfff) then
    refuseAt start (some "value is out of range")
  pure (Char.ofNat code)

/-- The character after a backslash. -/
def escapeSequence : Parse Char := do
  match ← anyChar with
  | 'b' => pure '\x08'
  | 'f' => pure '\x0c'
  | 'n' => pure '\n'
  | 'r' => pure '\r'
  | 't' => pure '\t'
  | 'u' => label "unicode 4-digit hex code" (cut (hexEscape 4))
  | 'U' => label "unicode 8-digit hex code" (cut (hexEscape 8))
  | '\\' => pure '\\'
  | '"' => pure '"'
  | _ =>
    expecting ["`b`", "`f`", "`n`", "`r`", "`t`", "`u`", "`U`", "`\\`", "`\"`"]
      (label "escape sequence" (cut backtrack))

/-- A backslash escape. -/
def escaped : Parse Char := do
  char '\\'
  escapeSequence

/-- A run of characters of a basic string, or one escape. -/
def basicChars : Parse (List Char) :=
  orElse (takeWhile isBasicChar 1) (do pure [← escaped])

/-- A one-line basic string. -/
def basicString : Parse String := do
  char '"'
  let parts ← many basicChars (← fuel)
  cut (label "basic string" (char '"'))
  pure (String.ofList parts.flatten)

/-- A one-line literal string. -/
def literalString : Parse String :=
  label "literal string" do
    char '\''
    let body ← cut (takeWhile isLiteralChar 0)
    cut (char '\'')
    pure (String.ofList body)

/-- One or two quotes `q` followed by what `term` reads, which is left unread. -/
def closingQuotes (q : Char) (term : Parse Unit) : Parse (List Char) :=
  let ahead : Parse Unit := fun s => match term s with
    | .ok _ => .ok ((), s)
    | .error f => .error f
  orElse (do char q; char q; ahead; pure [q, q]) (do char q; ahead; pure [q])

/-- A character other than `q`, left unread. -/
def notQuote (q : Char) : Parse Unit := fun s =>
  match s.rest with
  | c :: _ => if c != q then .ok ((), s) else .error { fromEnd := s.rest.length }
  | [] => .error { fromEnd := 0 }

/-- A backslash at the end of a line, with the blanks and line breaks after it. -/
def escapedNewline : Parse Unit := do
  let one : Parse Unit := do
    char '\\'
    ws
    newline
    let _ ← many (orElse newline (do let _ ← takeWhile (fun c => c == ' ' || c == '\t') 1)) (← fuel)
  one
  let _ ← many one (← fuel)

/-- A piece of a multi-line basic string. -/
def mlBasicContent : Parse (List Char) :=
  orElse (takeWhile isBasicChar 1) <|
    orElse (do escapedNewline; pure []) <|
      orElse (do pure [← escaped]) (do newline; pure ['\n'])

/-- The body of a multi-line basic string: pieces, with runs of one or two quotes inside,
and up to two quotes before the closing three. -/
def mlBasicBody : Parse (List Char) := do
  let first ← many mlBasicContent (← fuel)
  let rec quoted : Nat → Parse (List Char)
    | 0 => pure []
    | n + 1 => do
      match ← optional (closingQuotes '"' (notQuote '"')) with
      | none => pure []
      | some q =>
        match ← optional mlBasicContent with
        | none => pure []
        | some c =>
          let more ← many mlBasicContent (← fuel)
          return q ++ c ++ more.flatten ++ (← quoted n)
  let middle ← quoted (← fuel)
  let last ← optional (closingQuotes '"' (literal "\"\"\""))
  pure (first.flatten ++ middle ++ last.getD [])

/-- A multi-line basic string. -/
def mlBasicString : Parse String :=
  label "multiline basic string" do
    literal "\"\"\""
    let _ ← optional newline
    let body ← cut mlBasicBody
    cut (literal "\"\"\"")
    pure (String.ofList body)

/-- A piece of a multi-line literal string. -/
def mlLiteralContent : Parse Unit :=
  orElse (do let _ ← charIf isLiteralChar) newline

/-- The body of a multi-line literal string. -/
def mlLiteralBody : Parse (List Char) :=
  recognize do
    let _ ← many mlLiteralContent (← fuel)
    let _ ← many (do
        let _ ← closingQuotes '\'' (notQuote '\'')
        mlLiteralContent
        let _ ← many mlLiteralContent (← fuel)) (← fuel)
    let _ ← optional (closingQuotes '\'' (literal "'''"))

/-- Line breaks written as a carriage return and a line feed, read as line feeds. -/
def unifyBreaks : List Char → List Char
  | '\r' :: '\n' :: rest => '\n' :: unifyBreaks rest
  | c :: rest => c :: unifyBreaks rest
  | [] => []

/-- A multi-line literal string. -/
def mlLiteralString : Parse String :=
  label "multiline literal string" do
    literal "'''"
    let _ ← optional newline
    let body ← cut mlLiteralBody
    cut (literal "'''")
    pure (String.ofList (unifyBreaks body))

/-- A string of any of the four kinds. -/
def string : Parse String :=
  orElse mlBasicString (orElse basicString (orElse mlLiteralString literalString))

/-! ## Keys -/

/-- A character of a bare key. -/
def isBareKeyChar (c : Char) : Bool :=
  ('a' ≤ c && c ≤ 'z') || ('A' ≤ c && c ≤ 'Z') || c.isDigit || c == '-' || c == '_'

/-- A bare or quoted key part, with its text. -/
def simpleKey : Parse Key := do
  let start := (← get).rest
  let name ← match ← peek? with
    | some '"' => basicString
    | some '\'' => literalString
    | some _ => do pure (String.ofList (← takeWhile isBareKeyChar 1))
    | none => backtrack
  let rest := (← get).rest
  pure ⟨String.ofList (start.take (start.length - rest.length)), name⟩

/-- The most parts a dotted key may have, less one. -/
def keyDepthLimit : Nat := 80

/-- A key: its parts, separated by dots, with blanks around each. -/
def key : Parse (List Key) := do
  let start ← here
  let ks ← label "key" (separated (do ws; let k ← simpleKey; ws; pure k) (char '.') true)
  if keyDepthLimit ≤ ks.length then refuseAt start (some "recursion limit exceeded")
  pure ks

/-! ## Numbers -/

/-- More digits of a number, each underscore followed by a digit. -/
def digitTail (isDigit : Char → Bool) : Parse Unit := do
  let step : Parse Unit :=
    orElse (do let _ ← charIf isDigit)
      (do char '_'; let _ ← expecting ["digit"] (cut (charIf isDigit)))
  let _ ← many step (← fuel)

/-- A decimal integer: an optional sign, then a zero or digits without a leading zero. -/
def decInt : Parse (List Char) :=
  label "integer" <| recognize do
    let _ ← optional (charIf fun c => c == '+' || c == '-')
    orElse (do let _ ← charIf (fun c => '1' ≤ c && c ≤ '9'); digitTail Char.isDigit)
      (do let _ ← charIf Char.isDigit)

/-- Digits that may start with zero. -/
def zeroPrefixableInt : Parse Unit := do
  let _ ← charIf Char.isDigit
  digitTail Char.isDigit

/-- An exponent. -/
def exponent : Parse Unit := do
  let _ ← charIf fun c => c == 'e' || c == 'E'
  let _ ← optional (charIf fun c => c == '+' || c == '-')
  cut zeroPrefixableInt

/-- A fractional part. -/
def fraction : Parse Unit := do
  char '.'
  expecting ["digit"] (cut zeroPrefixableInt)

/-- The text of a decimal float. -/
def floatText : Parse (List Char) :=
  recognize do
    let _ ← decInt
    orElse exponent (do fraction; let _ ← optional exponent)

/-- An infinity or not-a-number, with an optional sign. -/
def specialFloat : Parse Binary64 := do
  let sign ← optional (charIf fun c => c == '+' || c == '-')
  let x ← orElse (do literal "inf"; pure (Binary64.inf false)) (do literal "nan"; pure .nan)
  pure (if sign == some '-' then x.neg else x)

/-- A float; one that overflows to positive infinity is refused. -/
def float : Parse Binary64 :=
  label "floating-point number" <|
    orElse
      (do
        let start ← here
        let t ← floatText
        match Binary64.ofText? (String.ofList (t.filter (· != '_'))) with
        | some x => if x == .inf false then throw { fromEnd := start, cut := true } else pure x
        | none => throw { fromEnd := start, cut := true })
      specialFloat

/-- Why an integer does not fit 64 signed bits. -/
def rangeCause (i : Int) : String :=
  if i < 0 then "number too small to fit in target type"
  else "number too large to fit in target type"

/-- Whether an integer fits 64 signed bits. -/
def fitsWord (i : Int) : Bool := decide (-Int.pow 2 63 ≤ i) && decide (i < Int.pow 2 63)

/-- An integer after a radix prefix: its digits, each underscore between two. -/
def radixInt (pfx : String) (what : String) (isDigit : Char → Bool) (radix : Nat) : Parse Int := do
  let start ← here
  let ds ← label what do
    literal pfx
    cut (recognize do let _ ← charIf isDigit; digitTail isDigit)
  let i : Int := digitsValue radix (ds.filter (· != '_'))
  if fitsWord i then pure i else refuseAt start (some (rangeCause i))

/-- An integer: hexadecimal, octal or binary after its prefix, or decimal. -/
def integer : Parse Int := do
  match ← peekN 2 with
  | ['0', 'x'] => cut (radixInt "0x" "hexadecimal integer" isHexDigit 16)
  | ['0', 'o'] => cut (radixInt "0o" "octal integer" (fun c => '0' ≤ c && c ≤ '7') 8)
  | ['0', 'b'] => cut (radixInt "0b" "binary integer" (fun c => c == '0' || c == '1') 2)
  | _ => do
    let start ← here
    let t ← decInt
    let (negative, ds) := match t with
      | '-' :: r => (true, r)
      | '+' :: r => (false, r)
      | r => (false, r)
    let n : Int := digitsValue 10 (ds.filter (· != '_'))
    let i := if negative then -n else n
    if fitsWord i then pure i else throw { fromEnd := start, cause := some (rangeCause i), cut := true }

/-! ## Dates and times -/

/-- Exactly `n` decimal digits, as a number checked to lie in `[lo, hi]`. -/
def digitsIn (n lo hi : Nat) : Parse Nat := do
  let start ← here
  let ds ← takeWhile Char.isDigit n (some n)
  let v := digitsValue 10 ds
  if lo ≤ v && v ≤ hi then pure v else refuseAt start (some "value is out of range")

/-- A full date, its day checked against its month. -/
def fullDate : Parse Date := do
  let year ← digitsValue 10 <$> takeWhile Char.isDigit 4 (some 4)
  char '-'
  let month ← cut (digitsIn 2 1 12)
  cut (char '-')
  let dayStart ← here
  let day ← cut (digitsIn 2 1 31)
  if daysInMonth year month < day then
    throw { fromEnd := dayStart, cause := some "value is out of range", cut := true }
  pure ⟨year, month, day⟩

/-- A fraction of a second, to the nanosecond: further digits are dropped. -/
def secondFraction : Parse Nat := do
  char '.'
  let ds ← takeWhile Char.isDigit 1
  let ds := ds.take 9
  pure (digitsValue 10 ds * Nat.pow 10 (9 - ds.length))

/-- A time of day. -/
def partialTime : Parse Time := do
  let hour ← digitsIn 2 0 23
  char ':'
  cut do
    let minute ← digitsIn 2 0 59
    char ':'
    let second ← digitsIn 2 0 60
    let nanos ← optional secondFraction
    pure ⟨hour, minute, second, nanos.getD 0⟩

/-- An offset from UTC. -/
def timeOffset : Parse Offset :=
  label "time offset" <|
    orElse (do let _ ← charIf (fun c => c == 'Z' || c == 'z'); pure .utc) do
      let sign ← charIf fun c => c == '+' || c == '-'
      cut do
        let h ← digitsIn 2 0 23
        char ':'
        let m ← digitsIn 2 0 59
        let total : Int := (h * 60 + m : Nat)
        pure (.minutes (if sign == '-' then -total else total))

/-- A date-time of any of the four kinds. -/
def dateTime : Parse Datetime :=
  orElse
    (label "date-time" do
      let date ← fullDate
      let rest ← optional do
        let _ ← charIf fun c => c == 'T' || c == 't' || c == ' '
        let time ← partialTime
        let offset ← optional timeOffset
        pure (time, offset)
      match rest with
      | some (time, offset) => pure ⟨some date, some time, offset⟩
      | none => pure ⟨some date, none, none⟩)
    (label "time" do pure ⟨none, some (← partialTime), none⟩)

/-! ## Values -/

/-- Errors of a value that starts like no value, said as if a string were meant. -/
def asString {α : Type} (p : Parse α) : Parse α :=
  expecting ["`\"`", "`'`"] (label "string" p)

/-- The error of a collection nested too deep. -/
def tooDeep {α : Type} : Parse α := do
  throw { fromEnd := ← here, cause := some "recursion limit exceeded", cut := true }

/-- Where a key conflicts in an inline table. -/
def inlineDescend (whole : List Key) : List Key → Nat → TableKind × Entries →
    (TableKind × Entries → Except Conflict (TableKind × Entries)) →
    Except Conflict (TableKind × Entries)
  | [], _, t, f => f t
  | k :: rest, i, (kind, es), f =>
    match es.lookup k.name with
    | none => do
      let child ← inlineDescend whole rest (i + 1) ({ inline := true, implicit := true, dotted := true }, []) f
      pure (kind, es ++ [(k.name, .table child.1 child.2)])
    | some (.table ck ces) => do
      if !ck.implicit then throw (.duplicate k.name none)
      let child ← inlineDescend whole rest (i + 1) (ck, ces) f
      pure (kind, es.map fun (n, v) => if n == k.name then (n, .table child.1 child.2) else (n, v))
    | some v => throw (.extendsValue (whole.take (i + 1)) v.typeName)

/-- The inline table of the pairs read, each key defined once. -/
def inlineOfPairs (pairs : List (List Key × Value)) : Except Conflict Entries :=
  let step (t : TableKind × Entries) (pair : List Key × Value) : Except Conflict (TableKind × Entries) :=
    let (ks, v) := pair
    let path := ks.dropLast
    let leaf := ks.getLastD default
    inlineDescend path path 0 t fun (kind, es) =>
      if kind.dotted == path.isEmpty then throw (.duplicate leaf.name none)
      else if es.any (·.1 == leaf.name) then throw (.duplicate leaf.name none)
      else pure (kind, es ++ [(leaf.name, v)])
  (pairs.foldlM step ({ inline := true }, [])).map (·.2)

mutual

/-- A value, with `room` more levels of nesting allowed. -/
def value (room : Nat) : Parse Value := do
  match ← peek? with
  | some '"' | some '\'' => .str <$> string
  | some '[' => array room
  | some '{' => inlineTable room
  | some c =>
    if c == '+' || c == '-' || c.isDigit then
      orElse (.datetime <$> dateTime) (orElse (.float <$> float) (.int <$> integer))
    else if c == '_' then expecting ["leading digit"] (.int <$> integer)
    else if c == '.' then expecting ["leading digit"] (.float <$> float)
    else if c == 't' then asString (do literal "true"; pure (.bool true))
    else if c == 'f' then asString (do literal "false"; pure (.bool false))
    else if c == 'i' then asString (do literal "inf"; pure (.float (.inf false)))
    else if c == 'n' then asString (do literal "nan"; pure (.float .nan))
    else asString backtrack
  | none => backtrack

/-- An array. -/
def array : Nat → Parse Value
  | 0 => tooDeep
  | room + 1 => do
    char '['
    let items ← cut do
      if (← peek?) == some ']' then pure []
      else
        let items ← separated (do wsCommentNewline; let v ← value room; wsCommentNewline; pure v)
          (char ',') false
        if !items.isEmpty then
          let _ ← optional (char ',')
        wsCommentNewline
        pure items
    cut (expecting ["`]`"] (label "array" (char ']')))
    pure (.array items)

/-- An inline table. -/
def inlineTable : Nat → Parse Value
  | 0 => tooDeep
  | room + 1 => do
    char '{'
    let start ← here
    let pairs ← cut do
      let pairs ← separated (do
          let ks ← key
          cut do
            expecting ["`.`", "`=`"] (char '=')
            ws
            let v ← value room
            ws
            pure (ks, v))
        (char ',') false
      ws
      pure pairs
    let entries ← match inlineOfPairs pairs with
      | .ok es => pure es
      | .error c => throw { fromEnd := start, cause := some c.message, cut := true }
    cut (expecting ["`\x7d`"] (label "inline table" (char '}')))
    pure (.table { inline := true } entries)

end

/-- The nesting a value at the top of a key/value pair may reach. -/
def nestingRoom : Nat := 79

end Toml

end Throttle
