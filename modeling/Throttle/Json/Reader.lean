import Throttle.Json.Value

/-!
# Reading JSON text

`Json.read` turns a JSON text into a `Json.Value`, or says what is wrong with it and where.

Numbers keep their kind. Digits alone are an integer when they fit: below `2 ^ 64`, or a
negative number not below `-2 ^ 63`; `-0` is the float negative zero. Any other number is
a float, made from its sign, decimal significand and exponent (the significand's first
digits, while they fit 64 bits; later integer digits only raise the exponent, and later
fraction digits are dropped). How the float is made is a parameter of `readWith`; `read`
uses `fromParts`, which rounds in two steps: the significand is rounded to binary64, then
multiplied or divided by one binary64 power of ten (dividing by `10 ^ 308` first while the
exponent is below `-308`). Each step rounds, so this is not always the binary64 value
nearest to the decimal. A number that overflows is an error.

Objects come out sorted by key, a repeated key keeping its last value. Containers nest
at most 127 deep.

An error is a fault with a place: the character it is reported at, which is either the
next character (not yet read) or the one just read, as each fault says. `ReadError.describe`
writes the place as a line (from 1) and a column, the byte count from the line's start to
the place.
-/

namespace Throttle

namespace Json

/-- What is wrong with a text that is not a JSON document. -/
inductive ReadFault where
  | eofInList
  | eofInObject
  | eofInString
  | eofInValue
  | expectedColon
  | expectedListCommaOrEnd
  | expectedObjectCommaOrEnd
  | expectedIdent
  | expectedValue
  | invalidEscape
  | invalidNumber
  | numberOutOfRange
  | controlCharacter
  | keyMustBeString
  | loneSurrogate
  | trailingComma
  | trailingCharacters
  | unexpectedEndOfHexEscape
  | recursionLimit
deriving DecidableEq, Inhabited, Repr

/-- The wording of a fault. -/
def ReadFault.message : ReadFault → String
  | .eofInList => "EOF while parsing a list"
  | .eofInObject => "EOF while parsing an object"
  | .eofInString => "EOF while parsing a string"
  | .eofInValue => "EOF while parsing a value"
  | .expectedColon => "expected `:`"
  | .expectedListCommaOrEnd => "expected `,` or `]`"
  | .expectedObjectCommaOrEnd => "expected `,` or `\x7d`"
  | .expectedIdent => "expected ident"
  | .expectedValue => "expected value"
  | .invalidEscape => "invalid escape"
  | .invalidNumber => "invalid number"
  | .numberOutOfRange => "number out of range"
  | .controlCharacter => "control character (\\u0000-\\u001F) found while parsing a string"
  | .keyMustBeString => "key must be a string"
  | .loneSurrogate => "lone leading surrogate in hex escape"
  | .trailingComma => "trailing comma"
  | .trailingCharacters => "trailing characters"
  | .unexpectedEndOfHexEscape => "unexpected end of hex escape"
  | .recursionLimit => "recursion limit exceeded"

/-- Why a text is not a JSON document, and where: the number of characters of the text
after the place the fault is reported at. -/
structure ReadError where
  fault : ReadFault
  fromEnd : Nat
deriving DecidableEq, Inhabited, Repr

namespace ReadError

/-- A fault reported at the next character, `rest`'s first, which is not read; at the end
of the text when nothing is left. -/
def before (f : ReadFault) (rest : List Char) : ReadError := ⟨f, rest.length - 1⟩

/-- A fault reported just after the last character read, before `rest`. -/
def after (f : ReadFault) (rest : List Char) : ReadError := ⟨f, rest.length⟩

/-- The wording of the fault. -/
def message (e : ReadError) : String := e.fault.message

/-- The line of the place in `text`, from 1, and its column: the bytes from the start of
its line to it. -/
def position (e : ReadError) (text : String) : Nat × Nat :=
  let cs := text.toList
  let before := cs.take (cs.length - e.fromEnd)
  let line := (before.reverse.takeWhile (· ≠ '\n')).reverse
  (1 + before.count '\n', (String.ofList line).utf8ByteSize)

/-- The fault with its place in `text`. -/
def describe (e : ReadError) (text : String) : String :=
  let (line, column) := e.position text
  e.message ++ " at line " ++ toString line ++ " column " ++ toString column

end ReadError

/-- Whether a character is a blank between tokens: space, tab, line feed, carriage return. -/
def isBlank (c : Char) : Bool := c = ' ' ∨ c = '\t' ∨ c = '\n' ∨ c = '\r'

/-- The text without leading blanks. -/
def skipBlank : List Char → List Char
  | c :: rest => if isBlank c then skipBlank rest else c :: rest
  | [] => []

/-- The value of a hexadecimal digit. -/
def hexValue (c : Char) : Option Nat :=
  if '0' ≤ c ∧ c ≤ '9' then some (c.toNat - '0'.toNat)
  else if 'a' ≤ c ∧ c ≤ 'f' then some (c.toNat - 'a'.toNat + 10)
  else if 'A' ≤ c ∧ c ≤ 'F' then some (c.toNat - 'A'.toNat + 10)
  else none

/-- The four hexadecimal digits of a `\u` escape, reported after all four when one is
not a digit. -/
def readHex4 : List Char → Except ReadError (Nat × List Char)
  | a :: b :: c :: d :: rest =>
    match hexValue a, hexValue b, hexValue c, hexValue d with
    | some w, some x, some y, some z => .ok (((w * 16 + x) * 16 + y) * 16 + z, rest)
    | _, _, _, _ => .error (.after .invalidEscape rest)
  | _ => .error (.after .eofInString [])

/-- Whether a code unit is a leading surrogate. -/
def isLeading (n : Nat) : Bool := 0xD800 ≤ n && n ≤ 0xDBFF

/-- Whether a code unit is a trailing surrogate. -/
def isTrailing (n : Nat) : Bool := 0xDC00 ≤ n && n ≤ 0xDFFF

/-- The character of a `\u` escape after the `u`: a leading surrogate must be followed by
the escape of a trailing one. -/
def readUnicodeEscape (cs : List Char) : Except ReadError (Char × List Char) := do
  let (n, rest) ← readHex4 cs
  if isTrailing n then throw (.after .loneSurrogate rest)
  if !isLeading n then return (Char.ofNat n, rest)
  match rest with
  | '\\' :: 'u' :: r => do
    let (m, r') ← readHex4 r
    if !isTrailing m then throw (.after .loneSurrogate r')
    pure (Char.ofNat (0x10000 + (n - 0xD800) * 0x400 + (m - 0xDC00)), r')
  | ['\\'] | [] => throw (.after .eofInString [])
  | '\\' :: _ :: r | _ :: r => throw (.after .unexpectedEndOfHexEscape r)

/-- The rest of a string after its opening quote, accumulated in reverse. -/
def readStringBody (acc : List Char) : List Char → Except ReadError (String × List Char)
  | [] => .error (.after .eofInString [])
  | '"' :: rest => .ok (String.ofList acc.reverse, rest)
  | '\\' :: rest =>
    match rest with
    | '"' :: r => readStringBody ('"' :: acc) r
    | '\\' :: r => readStringBody ('\\' :: acc) r
    | '/' :: r => readStringBody ('/' :: acc) r
    | 'b' :: r => readStringBody ('\x08' :: acc) r
    | 'f' :: r => readStringBody ('\x0c' :: acc) r
    | 'n' :: r => readStringBody ('\n' :: acc) r
    | 'r' :: r => readStringBody ('\r' :: acc) r
    | 't' :: r => readStringBody ('\t' :: acc) r
    | 'u' :: r =>
      match readUnicodeEscape r with
      | .ok (c, r') =>
        if r'.length < r.length then readStringBody (c :: acc) r'
        else .error (.after .invalidEscape r')
      | .error e => .error e
    | [] => .error (.after .eofInString [])
    | _ :: r => .error (.after .invalidEscape r)
  | c :: rest =>
    if c.toNat < 0x20 then .error (.after .controlCharacter rest)
    else readStringBody (c :: acc) rest
termination_by cs => cs.length

/-- The largest 64-bit significand. -/
def maxSignificand : Nat := Nat.pow 2 64 - 1

/-- The value of a decimal digit. -/
def digitValue (c : Char) : Nat := c.toNat - '0'.toNat

/-- The integer digits after the first: each is added to the significand while it fits 64
bits; from the first that does not, each digit only raises the exponent. -/
def integerDigits (sig : Nat) (exp : Int) (long : Bool) : List Char → Nat × Int × List Char
  | c :: rest =>
    if c.isDigit then
      if long || sig * 10 + digitValue c > maxSignificand then integerDigits sig (exp + 1) true rest
      else integerDigits (sig * 10 + digitValue c) exp false rest
    else (sig, exp, c :: rest)
  | [] => (sig, exp, [])

/-- The fraction digits: each is added to the significand, lowering the exponent, while it
fits 64 bits; from the first that does not, the digits are dropped. Also counts them. -/
def fractionDigits (sig : Nat) (exp : Int) (count : Nat) (dropping : Bool) :
    List Char → Nat × Int × Nat × List Char
  | c :: rest =>
    if c.isDigit then
      if dropping || sig * 10 + digitValue c > maxSignificand then
        fractionDigits sig exp (count + 1) true rest
      else fractionDigits (sig * 10 + digitValue c) (exp - 1) (count + 1) false rest
    else (sig, exp, count, c :: rest)
  | [] => (sig, exp, count, [])

/-- The largest 32-bit exponent. -/
def maxExponent : Nat := 2147483647

/-- The digits of an exponent: its value, or, when it passes the 32-bit range, the text
after the digit that made it so. -/
def exponentDigits (e : Nat) : List Char → (Nat × List Char) ⊕ List Char
  | c :: rest =>
    if c.isDigit then
      if e * 10 + digitValue c > maxExponent then .inr rest
      else exponentDigits (e * 10 + digitValue c) rest
    else .inl (e, c :: rest)
  | [] => .inl (e, [])

/-- The powers of ten as binary64 numbers, each rounded once. -/
def pow10 (k : Nat) : Binary64 := Binary64.ofScientific 1 false k

/-- Scale a binary64 number by a power of ten: one multiplication or division, after
dividing by `10 ^ 308` while the exponent is below `-308`; `none` on overflow. -/
def scaleByTen : Nat → Binary64 → Int → Option Binary64
  | fuel, f, e =>
    if e.natAbs ≤ 308 then
      if 0 ≤ e then
        let g := f * pow10 e.natAbs
        if g.isFinite then some g else none
      else some (f / pow10 e.natAbs)
    else if f.eqv 0 then some f
    else if 0 ≤ e then none
    else match fuel with
      | 0 => some (f / pow10 308)
      | n + 1 => scaleByTen n (f / pow10 308) (e + 308)

/-- A float from its sign, significand and decimal exponent; `none` on overflow. -/
def fromParts (negative : Bool) (sig : Nat) (exp : Int) : Option Binary64 :=
  (scaleByTen (exp.natAbs / 308 + 1) (Binary64.ofNat sig) exp).map fun f =>
    if negative then -f else f

/-- An exponent kept in the 32-bit range. -/
def clampExponent (e : Int) : Int := max (-(maxExponent : Int) - 1) (min e maxExponent)

/-- A float made by `ofParts` from its parts, or the overflow error after the number. -/
def floatOf (ofParts : Bool → Nat → Int → Option Binary64) (negative : Bool) (sig : Nat) (exp : Int)
    (rest : List Char) : Except ReadError (Value × List Char) :=
  match ofParts negative sig exp with
  | some x => .ok (.float x, rest)
  | none => .error (.after .numberOutOfRange rest)

/-- The exponent part after `e` or `E`, and the float it makes. -/
def readExponent (ofParts : Bool → Nat → Int → Option Binary64) (negative : Bool) (sig : Nat)
    (exp : Int) (cs : List Char) : Except ReadError (Value × List Char) :=
  let (down, cs) := match cs with
    | '+' :: r => (false, r)
    | '-' :: r => (true, r)
    | r => (false, r)
  match cs with
  | [] => .error (.after .eofInValue [])
  | c :: rest =>
    if !c.isDigit then .error (.after .invalidNumber rest)
    else
      match exponentDigits (digitValue c) rest with
      | .inl (e, rest) =>
        floatOf ofParts negative sig (clampExponent (if down then exp - e else exp + e)) rest
      | .inr rest =>
        if sig != 0 && !down then .error (.after .numberOutOfRange rest)
        else .ok (.float (if negative then -0 else 0), rest.dropWhile Char.isDigit)

/-- What follows the integer part: a fraction, an exponent, or the end of the number. -/
def readNumberTail (ofParts : Bool → Nat → Int → Option Binary64) (negative : Bool) (sig : Nat)
    (exp : Int) (long : Bool) : List Char → Except ReadError (Value × List Char)
  | '.' :: rest =>
    let (sig, exp, count, rest) := fractionDigits sig exp 0 false rest
    if count = 0 then
      match rest with
      | [] => .error (.before .eofInValue [])
      | r => .error (.before .invalidNumber r)
    else
      match rest with
      | c :: r =>
        if c = 'e' ∨ c = 'E' then readExponent ofParts negative sig exp r
        else floatOf ofParts negative sig exp (c :: r)
      | [] => floatOf ofParts negative sig exp []
  | c :: rest =>
    if c = 'e' ∨ c = 'E' then readExponent ofParts negative sig exp rest
    else if long then floatOf ofParts negative sig exp (c :: rest)
    else if !negative then .ok (.int sig, c :: rest)
    else if sig = 0 ∨ sig > Nat.pow 2 63 then .ok (.float (-(Binary64.ofNat sig)), c :: rest)
    else .ok (.int (-(sig : Int)), c :: rest)
  | [] =>
    if long then floatOf ofParts negative sig exp []
    else if !negative then .ok (.int sig, [])
    else if sig = 0 ∨ sig > Nat.pow 2 63 then .ok (.float (-(Binary64.ofNat sig)), [])
    else .ok (.int (-(sig : Int)), [])

/-- A number after its optional minus sign: a single leading zero or digits, then the tail. -/
def readNumber (ofParts : Bool → Nat → Int → Option Binary64) (negative : Bool) :
    List Char → Except ReadError (Value × List Char)
  | [] => .error (.after .eofInValue [])
  | c :: rest =>
    if c = '0' then
      match rest with
      | d :: _ =>
        if d.isDigit then .error (.before .invalidNumber rest)
        else readNumberTail ofParts negative 0 0 false rest
      | [] => readNumberTail ofParts negative 0 0 false []
    else if c.isDigit then
      let (sig, exp, rest) := integerDigits (digitValue c) 0 false rest
      readNumberTail ofParts negative sig exp (decide (exp ≠ 0)) rest
    else .error (.after .invalidNumber rest)

/-- The rest of a literal word, after its first letter. -/
def readWord : List Char → Value → List Char → Except ReadError (Value × List Char)
  | [], v, cs => .ok (v, cs)
  | w :: ws, v, c :: cs => if c = w then readWord ws v cs else .error (.after .expectedIdent cs)
  | _ :: _, _, [] => .error (.after .eofInValue [])

/-- The depth at which containers may no longer open. -/
def depthLimit : Nat := 128

mutual

/-- A value after optional blanks, inside `depth` open containers. The fuel bounds the
nesting and list lengths; the text's length is enough. -/
def readValue (ofParts : Bool → Nat → Int → Option Binary64) :
    Nat → Nat → List Char → Except ReadError (Value × List Char)
  | 0, _, cs => .error (.before .recursionLimit cs)
  | fuel + 1, depth, cs =>
    match skipBlank cs with
    | [] => .error (.before .eofInValue [])
    | '"' :: rest => do
      let (s, r) ← readStringBody [] rest
      pure (.str s, r)
    | '[' :: rest =>
      if depth + 1 ≥ depthLimit then .error (.before .recursionLimit ('[' :: rest))
      else readItems ofParts fuel (depth + 1) true [] rest
    | '{' :: rest =>
      if depth + 1 ≥ depthLimit then .error (.before .recursionLimit ('{' :: rest))
      else readFields ofParts fuel (depth + 1) true [] rest
    | 'n' :: rest => readWord "ull".toList .null rest
    | 't' :: rest => readWord "rue".toList (.bool true) rest
    | 'f' :: rest => readWord "alse".toList (.bool false) rest
    | '-' :: rest => readNumber ofParts true rest
    | c :: rest =>
      if c.isDigit then readNumber ofParts false (c :: rest)
      else .error (.before .expectedValue (c :: rest))

/-- The items of an array after its opening bracket (or after an item), accumulated in
reverse; `first` until an item is read. -/
def readItems (ofParts : Bool → Nat → Int → Option Binary64) :
    Nat → Nat → Bool → List Value → List Char → Except ReadError (Value × List Char)
  | 0, _, _, _, cs => .error (.before .recursionLimit cs)
  | fuel + 1, depth, first, acc, cs =>
    match skipBlank cs with
    | [] => .error (.before .eofInList [])
    | ']' :: r => .ok (.arr acc.reverse, r)
    | ',' :: r =>
      if first then .error (.before .expectedValue (',' :: r))
      else
        match skipBlank r with
        | [] => .error (.before .eofInValue [])
        | ']' :: r' => .error (.before .trailingComma (']' :: r'))
        | r' => do
          let (v, r'') ← readValue ofParts fuel depth r'
          readItems ofParts fuel depth false (v :: acc) r''
    | c :: r =>
      if first then do
        let (v, r'') ← readValue ofParts fuel depth (c :: r)
        readItems ofParts fuel depth false (v :: acc) r''
      else .error (.before .expectedListCommaOrEnd (c :: r))

/-- A key, its colon and its value, then the fields after it. -/
def readField (ofParts : Bool → Nat → Int → Option Binary64) :
    Nat → Nat → List (String × Value) → List Char → Except ReadError (Value × List Char)
  | 0, _, _, cs => .error (.before .recursionLimit cs)
  | fuel + 1, depth, acc, cs => do
    let (k, r) ← readStringBody [] cs
    match skipBlank r with
    | ':' :: r' => do
      let (v, r'') ← readValue ofParts fuel depth r'
      readFields ofParts fuel depth false (Value.insertField k v acc) r''
    | [] => .error (.before .eofInObject [])
    | r' => .error (.before .expectedColon r')

/-- The fields of an object after its opening brace (or after a field), inserted by key;
`first` until a field is read. -/
def readFields (ofParts : Bool → Nat → Int → Option Binary64) :
    Nat → Nat → Bool → List (String × Value) → List Char → Except ReadError (Value × List Char)
  | 0, _, _, _, cs => .error (.before .recursionLimit cs)
  | fuel + 1, depth, first, acc, cs =>
    match skipBlank cs with
    | [] => .error (.before .eofInObject [])
    | '}' :: r => .ok (.obj acc, r)
    | '"' :: r =>
      if first then readField ofParts fuel depth acc r
      else .error (.before .expectedObjectCommaOrEnd ('"' :: r))
    | ',' :: r =>
      if first then .error (.before .keyMustBeString (',' :: r))
      else
        match skipBlank r with
        | '"' :: r' => readField ofParts fuel depth acc r'
        | '}' :: r' => .error (.before .trailingComma ('}' :: r'))
        | [] => .error (.before .eofInValue [])
        | r' => .error (.before .keyMustBeString r')
    | c :: r =>
      if first then .error (.before .keyMustBeString (c :: r))
      else .error (.before .expectedObjectCommaOrEnd (c :: r))

end

/-- The JSON document of a whole text, its floats made by `ofParts`; only blanks may follow
the value. -/
def readWith (ofParts : Bool → Nat → Int → Option Binary64) (text : String) : Except ReadError Value := do
  let cs := text.toList
  let (v, rest) ← readValue ofParts (2 * cs.length + 2) 0 cs
  match skipBlank rest with
  | [] => pure v
  | r => throw (.before .trailingCharacters r)

/-- The JSON document of a whole text. -/
def read (text : String) : Except ReadError Value := readWith fromParts text

end Json

end Throttle
