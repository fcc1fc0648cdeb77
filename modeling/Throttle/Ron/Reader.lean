import Throttle.Binary64.Read

/-!
# RON values

A RON text holds one value: `true` or `false`; `None`, or `Some(v)`; `()`; a number
(decimal, or `0x`/`0o`/`0b` integers, with `_` between digits, or `inf` and `NaN`); a
character in single quotes; a string in double quotes or a raw string `r#"..."#`; a list
`[a, b]`; a map `{k: v}`; or a struct `name(field: v)` or a tuple `name(a, b)`, whose
name is optional. A name on its own stands for the unit value. Lists, maps, structs and
tuples may end with a comma; white space, `//` line comments and nested `/* */` block
comments may come between any two tokens, and `#![enable(...)]` attributes before the
value.

The text is read as bytes. An error names the line and the column, both from 1, where
the reading stopped: the column counts bytes.

A number is an integer when it has more integer characters (digits, hexadecimal letters
and `_`) than float characters (digits, `.`, signs, `e`, `E` and `_`) and reads as one
that fits 64 bits; otherwise it is read as a float. An unsigned integer above the largest
signed one becomes a float.
-/

namespace Throttle

namespace Ron

/-- A RON value. Struct fields and map entries are both maps; a tuple is a list. -/
inductive Value where
  | bool (b : Bool)
  | char (c : Char)
  | map (entries : List (Value × Value))
  | int (i : Int)
  | float (x : Binary64)
  | none
  | some (v : Value)
  | string (s : String)
  | seq (items : List Value)
  | unit
deriving Inhabited

/-- Why a text does not read as a value. -/
inductive Fault where
  | eof
  | expectedArrayEnd
  | expectedAttribute
  | expectedAttributeEnd
  | expectedComma
  | expectedChar
  | expectedFloat
  | floatUnderscore
  | expectedOption
  | expectedOptionEnd
  | expectedMapColon
  | expectedMapEnd
  | expectedStructLikeEnd
  | expectedString
  | expectedStringEnd
  | expectedIdentifier
  | invalidEscape (why : String)
  | noSuchExtension (name : String)
  | invalidUtf8 (why : String)
  | unclosedBlockComment
  | unexpectedByte (b : UInt8)
  | trailingCharacters
  | suggestRawIdentifier (name : String)
  | recursionLimit
deriving Inhabited

/-- A character as a character literal is shown in diagnostics, for the characters a
single byte stands for. -/
def byteLiteral (b : UInt8) : String :=
  let c := Char.ofNat b.toNat
  if c == '\'' then "'\\''"
  else if c == '\\' then "'\\\\'"
  else if c == '\n' then "'\\n'"
  else if c == '\r' then "'\\r'"
  else if c == '\t' then "'\\t'"
  else if c == '\x00' then "'\\0'"
  else if b.toNat < 0x20 || b.toNat == 0x7F || (0x80 ≤ b.toNat && b.toNat < 0xA0) ||
      b.toNat == 0xAD then
    "'\\u\x7b" ++ String.ofList (Nat.toDigits 16 b.toNat) ++ "\x7d'"
  else "'" ++ c.toString ++ "'"

/-- The wording of a fault. -/
def Fault.message : Fault → String
  | .eof => "Unexpected end of RON"
  | .expectedArrayEnd => "Expected closing `]`"
  | .expectedAttribute => "Expected an `#![enable(...)]` attribute"
  | .expectedAttributeEnd => "Expected closing `)]` after the enable attribute"
  | .expectedComma => "Expected comma"
  | .expectedChar => "Expected char"
  | .expectedFloat => "Expected float"
  | .floatUnderscore => "Unexpected underscore in float"
  | .expectedOption => "Expected option"
  | .expectedOptionEnd => "Expected closing `)`"
  | .expectedMapColon => "Expected colon"
  | .expectedMapEnd => "Expected closing `\x7d`"
  | .expectedStructLikeEnd => "Expected closing `)`"
  | .expectedString => "Expected string"
  | .expectedStringEnd => "Expected end of string"
  | .expectedIdentifier => "Expected identifier"
  | .invalidEscape why => why
  | .noSuchExtension name => "No RON extension named `" ++ name ++ "`"
  | .invalidUtf8 why => why
  | .unclosedBlockComment => "Unclosed block comment"
  | .unexpectedByte b => "Unexpected byte " ++ byteLiteral b
  | .trailingCharacters => "Non-whitespace trailing characters"
  | .suggestRawIdentifier name =>
    "Found invalid std identifier `" ++ name ++ "`, try the raw identifier `r#" ++ name ++
      "` instead"
  | .recursionLimit =>
    "Exceeded recursion limit, try increasing `ron::Options::recursion_limit` and using " ++
      "`serde_stacker` to protect against a stack overflow"

/-- The first place in `bytes`, counted from `i`, where they stop being UTF-8: the index
of the first byte of the bad sequence, and its length, or none when the bytes end in the
middle of a character. -/
def utf8Fault : List UInt8 → Nat → Option (Nat × Option Nat)
  | [], _ => Option.none
  | b :: rest, i =>
    let n := b.toNat
    let cont (x : UInt8) := 0x80 ≤ x.toNat && x.toNat < 0xC0
    if n < 0x80 then utf8Fault rest (i + 1)
    else if 0xC2 ≤ n && n < 0xE0 then
      match rest with
      | [] => Option.some (i, Option.none)
      | x :: r => if cont x then utf8Fault r (i + 2) else Option.some (i, Option.some 1)
    else if 0xE0 ≤ n && n < 0xF0 then
      let lo := if n == 0xE0 then 0xA0 else 0x80
      let hi := if n == 0xED then 0xA0 else 0xC0
      match rest with
      | [] => Option.some (i, Option.none)
      | x :: r =>
        if !(lo ≤ x.toNat && x.toNat < hi) then Option.some (i, Option.some 1)
        else match r with
          | [] => Option.some (i, Option.none)
          | y :: r => if cont y then utf8Fault r (i + 3) else Option.some (i, Option.some 2)
    else if 0xF0 ≤ n && n < 0xF5 then
      let lo := if n == 0xF0 then 0x90 else 0x80
      let hi := if n == 0xF4 then 0x90 else 0xC0
      match rest with
      | [] => Option.some (i, Option.none)
      | x :: r =>
        if !(lo ≤ x.toNat && x.toNat < hi) then Option.some (i, Option.some 1)
        else match r with
          | [] => Option.some (i, Option.none)
          | y :: r =>
            if !cont y then Option.some (i, Option.some 2)
            else match r with
              | [] => Option.some (i, Option.none)
              | z :: r =>
                if cont z then utf8Fault r (i + 4) else Option.some (i, Option.some 3)
    else Option.some (i, Option.some 1)

/-- The text of UTF-8 bytes, or why they are not UTF-8. -/
def decodeUtf8 (bytes : List UInt8) : Except Fault String :=
  match String.fromUTF8? ⟨bytes.toArray⟩ with
  | Option.some s => .ok s
  | Option.none =>
    match utf8Fault bytes 0 with
    | Option.some (i, Option.some n) =>
      .error (.invalidUtf8 ("invalid utf-8 sequence of " ++ toString n ++ " bytes from index " ++
        toString i))
    | Option.some (i, Option.none) =>
      .error (.invalidUtf8 ("incomplete utf-8 byte sequence from index " ++ toString i))
    | Option.none => .error (.invalidUtf8 "invalid utf-8")

/-- The text of ASCII bytes. -/
def asciiText (bytes : List UInt8) : String :=
  String.ofList (bytes.map fun b => Char.ofNat b.toNat)

/-- A place in the bytes: the index of the current byte, its line and column, and how
many more nested values may be read. -/
structure Cursor where
  pos : Nat := 0
  line : Nat := 1
  column : Nat := 1
  room : Nat := 128

/-- A reading step; the place where it stopped stays when it fails. -/
abbrev Read := ExceptT Fault (StateM Cursor)

section Reading

variable (bs : Array UInt8)

/-- Whether a byte is white space. -/
def isWhiteByte (b : UInt8) : Bool := b == 9 || b == 10 || b == 13 || b == 32

/-- Whether a byte is an ASCII letter. -/
def isLetterByte (b : UInt8) : Bool := (65 ≤ b && b ≤ 90) || (97 ≤ b && b ≤ 122)

/-- Whether a byte is an ASCII digit. -/
def isDigitByte (b : UInt8) : Bool := 48 ≤ b && b ≤ 57

/-- Whether a byte may start a name. -/
def isNameFirst (b : UInt8) : Bool := isLetterByte b || b == 95

/-- Whether a byte may follow the first of a name. -/
def isNameOther (b : UInt8) : Bool := isNameFirst b || isDigitByte b

/-- Whether a byte may be part of a raw name. -/
def isNameRaw (b : UInt8) : Bool := isNameOther b || b == 46 || b == 43 || b == 45

/-- Whether a byte may be part of an integer: a hexadecimal digit or `_`. -/
def isIntByte (b : UInt8) : Bool :=
  isDigitByte b || (97 ≤ b && b ≤ 102) || (65 ≤ b && b ≤ 70) || b == 95

/-- Whether a byte may be part of a float: a digit, `.`, a sign, `e`, `E` or `_`. -/
def isFloatByte (b : UInt8) : Bool :=
  isDigitByte b || b == 46 || b == 43 || b == 45 || b == 101 || b == 69 || b == 95

/-- The place after the byte at the cursor. -/
def Cursor.step (c : Cursor) : Cursor :=
  match bs[c.pos]? with
  | Option.some 10 => { c with pos := c.pos + 1, line := c.line + 1, column := 1 }
  | Option.some _ => { c with pos := c.pos + 1, column := c.column + 1 }
  | Option.none => c

/-- The place `n` bytes on. -/
def Cursor.skipBytes : Nat → Cursor → Cursor
  | 0, c => c
  | n + 1, c => Cursor.skipBytes n (c.step bs)

/-- Move `n` bytes on. -/
def advance (n : Nat) : Read Unit := modify (Cursor.skipBytes bs n)

/-- The byte at the cursor. -/
def peek? : Read (Option UInt8) := do pure bs[(← get).pos]?

/-- The byte at the cursor, which must be there. -/
def peekOrEof : Read UInt8 := do
  match bs[(← get).pos]? with
  | Option.some b => pure b
  | Option.none => throw .eof

/-- Take the byte at the cursor. -/
def eatByte : Read UInt8 := do
  let b ← peekOrEof bs
  advance bs 1
  pure b

/-- The byte `k` on from the cursor. -/
def byteAt (k : Nat) : Read (Option UInt8) := do pure bs[(← get).pos + k]?

/-- The number of bytes from the cursor on that satisfy `ok`. -/
def countWhile (ok : UInt8 → Bool) (from_ : Nat) : Nat :=
  ((bs.toList.drop from_).takeWhile ok).length

/-- Whether the bytes at the cursor spell `s`. -/
def testFor (s : String) : Read Bool := do
  let p := (← get).pos
  let want := s.toUTF8.toList
  pure ((List.range want.length).all fun i => bs[p + i]? == want[i]?)

/-- Take `s` if the bytes at the cursor spell it. -/
def consume (s : String) : Read Bool := do
  if ← testFor bs s then
    advance bs s.utf8ByteSize
    pure true
  else pure false

/-- Whether the bytes at the cursor spell the name `s`, not followed by a name byte. -/
def checkName (s : String) : Read Bool := do
  let p := (← get).pos
  pure ((← testFor bs s) && !(bs[p + s.utf8ByteSize]?.any isNameOther))

/-- Take the name `s` if it is at the cursor. -/
def consumeName (s : String) : Read Bool := do
  if ← checkName bs s then
    advance bs s.utf8ByteSize
    pure true
  else pure false

/-- The bytes from the cursor on, `n` of them. -/
def bytesAhead (n : Nat) : Read (List UInt8) := do
  pure ((bs.toList.drop (← get).pos).take n)

/-- Skip a comment at the cursor, telling whether there was one. -/
def skipComment : Read Bool := do
  if !(← consume bs "/") then return false
  match ← eatByte bs with
  | 47 =>
    let n := countWhile bs (· != 10) (← get).pos
    advance bs n
    pure true
  | 42 =>
    let rec closeBlock : Nat → Nat → Read Unit
      | 0, _ => pure ()
      | _, 0 => pure ()
      | fuel + 1, level + 1 => do
        let p := (← get).pos
        if bs.size ≤ p then throw .unclosedBlockComment
        advance bs (countWhile bs (fun b => b != 47 && b != 42) p)
        if ← consume bs "/*" then closeBlock fuel (level + 2)
        else if ← consume bs "*/" then closeBlock fuel level
        else
          match bs[(← get).pos]? with
          | Option.some _ => do advance bs 1; closeBlock fuel (level + 1)
          | Option.none => throw .unclosedBlockComment
    closeBlock (bs.size + 1) 1
    pure true
  | b => throw (.unexpectedByte b)

/-- Skip white space and comments. -/
def skipWs : Nat → Read Unit
  | 0 => pure ()
  | n + 1 => do
    let p := (← get).pos
    advance bs (countWhile bs isWhiteByte p)
    if ← skipComment bs then skipWs n

/-- Skip white space and comments. -/
def ws : Read Unit := skipWs bs (bs.size + 1)

/-- Take a comma and the white space around it, telling whether there was one. -/
def comma : Read Bool := do
  ws bs
  if ← consume bs "," then
    ws bs
    pure true
  else pure false

/-- A name at the cursor: plain, or raw after `r#`. -/
def identifier : Read (List UInt8) := do
  let next ← peekOrEof bs
  let p := (← get).pos
  if !isNameFirst next then
    if isNameRaw next then
      let raw := (bs.toList.drop p).take (countWhile bs isNameRaw p)
      throw (.suggestRawIdentifier (asciiText raw))
    throw .expectedIdentifier
  let plainLength := countWhile bs isNameOther p
  let rawLength := countWhile bs isNameRaw p
  let suggest : Read Unit :=
    if plainLength < rawLength then
      throw (.suggestRawIdentifier (asciiText ((bs.toList.drop p).take rawLength)))
    else pure ()
  if next == 114 then
    match bs[p + 1]? with
    | Option.none => throw .eof
    | Option.some 34 => throw .expectedIdentifier
    | Option.some 35 =>
      let after := bs[p + 2]?
      if after == Option.some 34 || after == Option.some 35 then throw .expectedIdentifier
      advance bs 2
      let q := (← get).pos
      let n := countWhile bs isNameRaw q
      let name := (bs.toList.drop q).take n
      advance bs n
      return name
    | Option.some _ =>
      suggest
      advance bs plainLength
      return (bs.toList.drop p).take plainLength
  suggest
  advance bs plainLength
  pure ((bs.toList.drop p).take plainLength)

/-- A name at the cursor, or nothing with the cursor left where it was. -/
def tryIdentifier : Read (Option (List UInt8)) := do
  let saved ← get
  tryCatch (do let n ← identifier bs; pure (Option.some n)) fun _ => do
    set saved
    pure Option.none

/-- Whether parentheses at the cursor hold a tuple rather than a struct: a struct starts
with a name and a colon. Looks ahead only. -/
def isTuple : Read Bool := do
  match ← tryIdentifier bs with
  | Option.none => pure true
  | Option.some _ =>
    ws bs
    let b ← eatByte bs
    pure (b != 58)

/-- Run `act` to look ahead: the cursor goes back where it was, also when it fails. -/
def lookAhead {α : Type} (act : Read α) : Read α := do
  let saved ← get
  let r ← tryCatch act fun e => do
    set saved
    throw e
  set saved
  pure r

/-- Read a nested value with `act`, within the limit of nesting. -/
def nested {α : Type} (act : Read α) : Read α := do
  let c ← get
  if c.room == 0 then throw .recursionLimit
  set { c with room := c.room - 1 }
  let r ← act
  modify fun c => { c with room := c.room + 1 }
  pure r

/-- The value of a hexadecimal digit. -/
def hexDigit? (b : UInt8) : Option Nat :=
  if isDigitByte b then Option.some (b.toNat - 48)
  else if 97 ≤ b && b ≤ 102 then Option.some (b.toNat - 87)
  else if 65 ≤ b && b ≤ 70 then Option.some (b.toNat - 55)
  else Option.none

/-- A hexadecimal digit, read. -/
def hexOf (b : UInt8) : Read Nat :=
  match hexDigit? b with
  | Option.some v => pure v
  | Option.none => throw (.invalidEscape "Non-hex digit found")

/-- The digits of a `\u\x7b..\x7d` escape, after the brace: at most six. -/
def unicodeDigits : Nat → Nat → Nat → Read (Nat × Nat)
  | 0, acc, count => pure (acc, count)
  | n + 1, acc, count => do
    let b ← peekOrEof bs
    if b == 125 then return (acc, count)
    advance bs 1
    let d ← hexOf b
    unicodeDigits n (acc * 16 + d) (count + 1)

/-- An escape after a backslash: a byte, or a character. -/
def escape : Read (Sum UInt8 Char) := do
  match ← eatByte bs with
  | 39 => pure (.inl 39)
  | 34 => pure (.inl 34)
  | 92 => pure (.inl 92)
  | 110 => pure (.inl 10)
  | 114 => pure (.inl 13)
  | 116 => pure (.inl 9)
  | 48 => pure (.inl 0)
  | 120 => do
    let hi ← hexOf (← eatByte bs)
    let lo ← hexOf (← eatByte bs)
    pure (.inl (UInt8.ofNat (hi * 16 + lo)))
  | 117 => do
    if (← eatByte bs) != 123 then throw (.invalidEscape "Missing \x7b in Unicode escape")
    let (v, count) ← unicodeDigits bs 6 0 0
    if count == 0 then
      throw (.invalidEscape "Expected 1-6 digits, got 0 digits in Unicode escape")
    if (← eatByte bs) != 125 then throw (.invalidEscape "No \x7d at the end of Unicode escape")
    if v.isValidChar then pure (.inr (Char.ofNat v))
    else throw (.invalidEscape "Not a valid char")
  | _ => throw (.invalidEscape "Unknown escape character")

/-- The bytes of a character. -/
def charBytes (c : Char) : List UInt8 := c.toString.toUTF8.toList

/-- The rest of a double-quoted string after the quote, its bytes so far reversed. -/
def escapedRest : Nat → List UInt8 → Read (List UInt8)
  | 0, acc => pure acc.reverse
  | n + 1, acc => do
    let p := (← get).pos
    let k := countWhile bs (fun b => b != 92 && b != 34) p
    if bs.size ≤ p + k then throw .expectedStringEnd
    let chunk := (bs.toList.drop p).take k
    let acc := chunk.reverse ++ acc
    if bs[p + k]? == Option.some 34 then
      advance bs (k + 1)
      pure acc.reverse
    else
      advance bs (k + 1)
      match ← escape bs with
      | .inl b => escapedRest n (b :: acc)
      | .inr c => escapedRest n ((charBytes c).reverse ++ acc)

/-- The first place from `p` on where `pattern` starts. -/
def findFrom (pattern : List UInt8) (p : Nat) : Option Nat :=
  let rest := bs.toList.drop p
  (List.range (rest.length + 1)).find? fun i => (rest.drop i).take pattern.length == pattern

/-- A string at the cursor: in double quotes with escapes, or raw. -/
def string : Read String := do
  if ← consume bs "\"" then
    let bytes ← escapedRest bs (bs.size + 1) []
    match decodeUtf8 bytes with
    | .ok s => pure s
    | .error e => throw e
  else if ← consume bs "r" then
    let p := (← get).pos
    let hashes := countWhile bs (· == 35) p
    advance bs hashes
    if !(← consume bs "\"") then throw .expectedString
    let q := (← get).pos
    match findFrom bs (34 :: List.replicate hashes 35) q with
    | Option.none => throw .expectedStringEnd
    | Option.some i =>
      let bytes := (bs.toList.drop q).take i
      advance bs (i + hashes + 1)
      match decodeUtf8 bytes with
      | .ok s => pure s
      | .error e => throw e
  else throw .expectedString

/-- A character in single quotes at the cursor. -/
def char : Read Char := do
  if !(← consume bs "'") then throw .expectedChar
  let c ← peekOrEof bs
  let c ← if c == 92 then do
      advance bs 1
      match ← escape bs with
      | .inl b => pure (Char.ofNat b.toNat)
      | .inr c => pure c
    else do
      let ahead ← bytesAhead bs 5
      match ahead.findIdx? (· == 39) with
      | Option.none => throw .expectedChar
      | Option.some k =>
        match decodeUtf8 (ahead.take k) with
        | .error e => throw e
        | .ok s =>
          match s.toList with
          | [c] =>
            advance bs k
            pure c
          | _ => throw .expectedChar
  if !(← consume bs "'") then throw .expectedChar
  pure c

/-- Whether the number at the cursor has more float bytes than integer bytes, after an
optional sign. -/
def looksFloat : Read Bool := do
  match ← peek? bs with
  | Option.none => pure false
  | Option.some b =>
    let p := (← get).pos + (if b == 43 || b == 45 then 1 else 0)
    pure (countWhile bs isIntByte p < countWhile bs isFloatByte p)

/-- A float at the cursor: `inf` or `NaN` with an optional sign, or float bytes. -/
def float : Read Binary64 := do
  for (name, x) in [("inf", Binary64.inf false), ("+inf", Binary64.inf false),
      ("-inf", Binary64.inf true), ("NaN", Binary64.nan), ("+NaN", Binary64.nan),
      ("-NaN", Binary64.nan)] do
    if ← consumeName bs name then return x
  let p := (← get).pos
  let n := countWhile bs isFloatByte p
  let text := (bs.toList.drop p).take n
  match text.findIdx? (· == 95) with
  | Option.some k =>
    advance bs k
    throw .floatUnderscore
  | Option.none =>
    let s := String.ofList (text.map fun b => Char.ofNat b.toNat)
    advance bs n
    match Binary64.ofText? s with
    | Option.some x => pure x
    | Option.none => throw .expectedFloat

/-- Digits in base `base`, `_` skipped, onto `acc`, with the sign `negative`, within
`-2 ^ 63` and `2 ^ 63 - 1` when `signed`, else within `2 ^ 64 - 1`. -/
def integerDigits (base : Nat) (negative signed : Bool) : List UInt8 → Int → Option Int
  | [], acc => Option.some acc
  | b :: rest, acc =>
    if b == 95 then integerDigits base negative signed rest acc
    else
      let low : Int := if signed then -(Int.pow 2 63) else 0
      let high : Int := if signed then Int.pow 2 63 - 1 else Int.pow 2 64 - 1
      let scaled := acc * base
      if scaled < low || high < scaled then Option.none
      else match hexDigit? b with
        | Option.some d =>
          if base ≤ d then Option.none
          else
            let next := if negative then scaled - d else scaled + d
            if next < low || high < next then Option.none
            else integerDigits base negative signed rest next
        | Option.none => Option.none

/-- An integer at the cursor, with the sign `negative`, as 64 signed bits when `signed`
and else as 64 unsigned bits. -/
def integer (negative signed : Bool) : Read (Option Int) := do
  let first ← byteAt bs 0
  let second ← byteAt bs 1
  let base := if first == Option.some 48 then
      match second with
      | Option.some 120 => 16
      | Option.some 98 => 2
      | Option.some 111 => 8
      | _ => 10
    else 10
  if base != 10 then advance bs 2
  let p := (← get).pos
  let n := countWhile bs isIntByte p
  let digits := (bs.toList.drop p).take n
  if n == 0 || digits.head? == Option.some 95 then return Option.none
  let r := integerDigits base negative signed digits 0
  advance bs n
  pure r

/-- A number at the cursor. -/
def number : Read Value := do
  let saved ← get
  let first ← peekOrEof bs
  let signed := first == 43 || first == 45
  if ← looksFloat bs then return .float (← float bs)
  let r ← if signed then do
      advance bs 1
      integer bs (first == 45) true
    else integer bs false false
  match r with
  | Option.some i =>
    if i < Int.pow 2 63 then pure (.int i) else pure (.float (Binary64.ofNat i.toNat))
  | Option.none =>
    set saved
    pure (.float (← float bs))

/-- Whether another item follows in a list, map or struct closed by `close`, given
whether a comma came after the last one. -/
def hasElement (hadComma : Bool) (close : UInt8) : Read Bool := do
  ws bs
  let b ← peekOrEof bs
  if hadComma then pure (b != close)
  else if b == close then pure false
  else throw .expectedComma

mutual

/-- A value at the cursor. -/
def value : Nat → Read Value
  | 0 => throw .recursionLimit
  | n + 1 => do
    if ← consumeName bs "true" then return .bool true
    if ← consumeName bs "false" then return .bool false
    if ← checkName bs "Some" then return ← option n
    if ← consumeName bs "None" then return .none
    if ← consume bs "()" then return .unit
    if ← consumeName bs "inf" then return .float (Binary64.inf false)
    if ← consumeName bs "-inf" then return .float (Binary64.inf true)
    if ← consumeName bs "NaN" then return .float Binary64.nan
    match ← tryIdentifier bs with
    | Option.some _ =>
      ws bs
      return ← parenthesized n
    | Option.none => pure ()
    match ← peekOrEof bs with
    | 40 => parenthesized n
    | 91 => list n
    | 123 => map n
    | 46 => return .float (← float bs)
    | 34 | 114 => return .string (← string bs)
    | 39 => return .char (← char bs)
    | b =>
      if isDigitByte b || b == 43 || b == 45 then number bs
      else throw (.unexpectedByte b)

/-- `Some(v)` at the cursor. -/
def option : Nat → Read Value
  | 0 => throw .recursionLimit
  | n + 1 => do
    let opened ← (do
      if !(← consume bs "Some") then return false
      ws bs
      consume bs "(")
    if !opened then throw .expectedOption
    ws bs
    let v ← nested (value n)
    let _ ← comma bs
    if !(← consume bs ")") then throw .expectedOptionEnd
    pure (.some v)

/-- What parentheses at the cursor hold: a tuple or a struct; the unit value when there
are none. -/
def parenthesized : Nat → Read Value
  | 0 => throw .recursionLimit
  | n + 1 => do
    let tuple? ← lookAhead (do
      if !(← consume bs "(") then return Option.none
      ws bs
      pure (Option.some (← isTuple bs)))
    match tuple? with
    | Option.none => pure .unit
    | Option.some true => do
      let _ ← consume bs "("
      let items ← nested (items n 41 true [])
      let _ ← comma bs
      if !(← consume bs ")") then throw .expectedArrayEnd
      pure (.seq items)
    | Option.some false => do
      let _ ← consume bs "("
      let entries ← nested (entries n 41 true [])
      ws bs
      if !(← consume bs ")") then throw .expectedStructLikeEnd
      pure (.map entries)

/-- A list at the cursor. -/
def list : Nat → Read Value
  | 0 => throw .recursionLimit
  | n + 1 => do
    let _ ← consume bs "["
    let items ← nested (items n 93 true [])
    let _ ← comma bs
    if !(← consume bs "]") then throw .expectedArrayEnd
    pure (.seq items)

/-- A map at the cursor. -/
def map : Nat → Read Value
  | 0 => throw .recursionLimit
  | n + 1 => do
    let _ ← consume bs "\x7b"
    let entries ← nested (entries n 125 true [])
    let _ ← comma bs
    if !(← consume bs "\x7d") then throw .expectedMapEnd
    pure (.map entries)

/-- The items of a list or tuple closed by `close`. -/
def items : Nat → UInt8 → Bool → List Value → Read (List Value)
  | 0, _, _, acc => pure acc.reverse
  | n + 1, close, hadComma, acc => do
    if !(← hasElement bs hadComma close) then return acc.reverse
    let v ← nested (value n)
    let c ← comma bs
    items n close c (v :: acc)

/-- The entries of a map or the fields of a struct, closed by `close`: a field's key is
a name. -/
def entries : Nat → UInt8 → Bool → List (Value × Value) → Read (List (Value × Value))
  | 0, _, _, acc => pure acc.reverse
  | n + 1, close, hadComma, acc => do
    if !(← hasElement bs hadComma close) then return acc.reverse
    let k ← if close == 41 then do
        let name ← identifier bs
        pure (Value.string (asciiText name))
      else value n
    ws bs
    if !(← consume bs ":") then throw .expectedMapColon
    ws bs
    let v ← nested (value n)
    let c ← comma bs
    entries n close c ((k, v) :: acc)

end

/-- The names of the extensions an attribute may enable. -/
def extensionNames : List String := ["unwrap_newtypes", "implicit_some", "unwrap_variant_newtypes"]

/-- The names inside an attribute. -/
def extensionList : Nat → Read Unit
  | 0 => pure ()
  | n + 1 => do
    let name ← identifier bs
    let text := asciiText name
    if !extensionNames.contains text then throw (.noSuchExtension text)
    let c ← comma bs
    let more := (← byteAt bs 0).any isNameOther
    if !c && more then throw .expectedComma
    if c && more then extensionList n

/-- The attributes before the value. -/
def attributes : Nat → Read Unit
  | 0 => pure ()
  | n + 1 => do
    if (← peek? bs) != Option.some 35 then return
    if !(← consume bs "#![enable(") then throw .expectedAttribute
    ws bs
    extensionList bs (bs.size + 1)
    ws bs
    if !(← consume bs ")]") then throw .expectedAttributeEnd
    ws bs
    attributes n

/-- The value of the whole text. -/
def document : Read Value := do
  ws bs
  attributes bs (bs.size + 1)
  let v ← value bs (4 * bs.size + 4)
  ws bs
  if (← get).pos < bs.size then throw .trailingCharacters
  pure v

end Reading

/-- The value a RON text holds, or the report of why it does not: the line and column
where the reading stopped, and what went wrong. -/
def parse (text : String) : Except String Value :=
  let bs := text.toUTF8.data
  match (document bs).run.run {} with
  | (.ok v, _) => .ok v
  | (.error e, c) => .error (toString c.line ++ ":" ++ toString c.column ++ ": " ++ e.message)

end Ron

end Throttle
