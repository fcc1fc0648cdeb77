import Throttle.Yaml.Token

/-!
# Scanning YAML text into tokens

The scanner reads the text once, left to right, and emits the tokens of YAML's block
and flow styles. Block structure comes from indentation: when a line is indented more
than the enclosing block, a block collection starts; when it is indented less, the
blocks deeper than the line end.

Under YAML 1.2 some levels of indentation start no block: after a `:`, and after a `-`
that ends its line or opens a flow collection, what follows must be indented one column
further than the block, but a block that starts there replaces the level. Scalars drop
such a level before they are read, except quoted ones.

A mapping key without `?` (a simple key) is only known to be a key when its `:` is
seen. The scanner remembers, for each flow level, where the last possible simple key
started and how many tokens preceded it; when the `:` arrives it inserts the key token
(and a mapping start when the key opens a new block) at that position. A simple key
stays on one line and within 1024 characters; a key at the indentation column of a
block mapping is required, and losing it is an error.

On a syntax error the tokens before it are kept, except those from a still possible
simple key on, since a reader could not yet have been given them.

The two dialects differ in a few rules. Under YAML 1.2 a tab counts as white space
between tokens (but not as block indentation), a comment must follow white space, a
quoted scalar may only be followed on its line by what can come after a key or a flow
entry, simple keys inside flow collections may span lines, anchors take any character
but white space and flow indicators, and flow collections nest at most 255 deep. Under
YAML 1.1 a byte order mark may start a line, and `\'` is an escape.
-/

namespace Throttle

namespace Yaml

/-- A place where a simple key may start. -/
structure SimpleKey where
  possible : Bool
  required : Bool
  tokenNumber : Nat
  mark : Mark
deriving Inhabited

/-- A key that cannot start anywhere yet. -/
def SimpleKey.none : SimpleKey := ⟨false, false, 0, ⟨0, 0, 0⟩⟩

/-- A level of indentation given up when a less indented line comes: the indentation
before it, and whether it started a block (whose end is a token). -/
structure Level where
  before : Int
  block : Bool
deriving Inhabited

/-- The scanner's state: the dialect, the text still to read, the tokens so far, the
indentation and the levels under it, and a simple key for each flow level (the innermost
first). Under
YAML 1.2 it also knows whether only blanks came since the last line break, whether a
flow mapping has started, and, for each flow sequence it is in (the innermost first),
whether a one-pair mapping without braces is open in it. -/
structure Scanner where
  dialect : Dialect
  input : List Char
  mark : Mark
  tokens : Array Token
  simpleKeyAllowed : Bool
  simpleKeys : List SimpleKey
  indent : Int
  indents : List Level
  flowLevel : Nat
  adjacentValueAt : Option Nat
  lineStart : Bool
  mappingStarted : Bool
  implicitMappings : List Bool
deriving Inhabited

/-- A scanning step. -/
abbrev Scan := ExceptT SyntaxError (StateM Scanner)

namespace Scanner

/-- The scanner at the start of `text`, with the stream start emitted. -/
def start (d : Dialect) (text : String) : Scanner :=
  { dialect := d, input := text.toList, mark := .start, tokens := #[⟨.start, .streamStart⟩],
    simpleKeyAllowed := true, simpleKeys := [.none], indent := -1, indents := [],
    flowLevel := 0, adjacentValueAt := none, lineStart := true, mappingStarted := false,
    implicitMappings := [] }

/-- The character `n` places ahead; NUL past the end. -/
def look (n : Nat) : Scan Char := return (← get).input.getD n '\x00'

/-- The current character. -/
def cur : Scan Char := look 0

/-- The current position. -/
def here : Scan Mark := return (← get).mark

/-- The dialect of the text. -/
def textDialect : Scan Dialect := return (← get).dialect

/-- Fail at `m`. -/
def fail {α : Type} (m : Mark) (info : String) : Scan α := throw ⟨m, info⟩

/-- Whether `c`, followed by `rest`, ends a line: a carriage return ends one unless a
line feed follows it, and any other line break of the dialect ends one. -/
def endsLine (d : Dialect) (c : Char) (rest : List Char) : Bool :=
  if c == '\r' then rest.head? != some '\n' else d.isBreak c

/-- Move past one character. -/
def advance : Scan Unit := modify fun s =>
  match s.input with
  | [] => s
  | c :: rest =>
    let m := s.mark
    let nl := endsLine s.dialect c rest
    { s with input := rest,
             mark := if nl then ⟨m.index + 1, m.line + 1, 0⟩ else ⟨m.index + 1, m.line, m.col + 1⟩,
             lineStart := nl || (s.lineStart && isBlank c) }

/-- Move past `n` characters. -/
def advanceBy : Nat → Scan Unit
  | 0 => pure ()
  | n + 1 => do advance; advanceBy n

/-- The current character, then move past it. -/
def take : Scan Char := do
  let c ← cur
  advance
  return c

/-- Move past one line break: a carriage return and line feed together, or one break. -/
def skipBreak : Scan Unit := do
  if (← cur) == '\r' && (← look 1) == '\n' then advanceBy 2
  else if (← textDialect).isBreak (← cur) then advance

/-- Move past one line break; LS and PS read as themselves, any other as a line feed. -/
def readBreak : Scan String := do
  let c ← cur
  skipBreak
  return if c == '\u2028' || c == '\u2029' then String.singleton c else "\n"

/-- A bound on the steps of any loop over the rest of the text. -/
def fuel : Scan Nat := return (← get).input.length + 1

/-- Move past characters while `p` holds. -/
def skipWhile (p : Char → Bool) : Nat → Scan Unit
  | 0 => pure ()
  | n + 1 => do if p (← cur) && !isEnd (← cur) then advance; skipWhile p n

/-- Read characters while `p` holds. -/
def takeWhile (p : Char → Bool) : Nat → Scan String
  | 0 => pure ""
  | n + 1 => do
    let c ← cur
    if p c && !isEnd c then
      advance
      return (String.singleton c) ++ (← takeWhile p n)
    else return ""

/-- Emit a token. -/
def push (t : Token) : Scan Unit := modify fun s => { s with tokens := s.tokens.push t }

/-- Emit a token at position `i` of the token list. -/
def insertAt (i : Nat) (t : Token) : Scan Unit := modify fun s =>
  { s with tokens := (s.tokens.toList.take i ++ t :: s.tokens.toList.drop i).toArray }

/-- Allow or forbid a simple key at the current position. -/
def setSimpleKeyAllowed (b : Bool) : Scan Unit := modify fun s => { s with simpleKeyAllowed := b }

/-- The simple key of the current flow level. -/
def currentKey : Scan SimpleKey := return (← get).simpleKeys.headD .none

/-- Replace the simple key of the current flow level. -/
def setCurrentKey (k : SimpleKey) : Scan Unit := modify fun s =>
  { s with simpleKeys := k :: s.simpleKeys.tail }

/-- Forget the possible simple key of the current level; a required one is an error. -/
def removeSimpleKey : Scan Unit := do
  let k ← currentKey
  if k.possible && k.required then fail (← here) "simple key expected"
  setCurrentKey { k with possible := false }

/-- Remember the current position as a possible simple key, if one may start here. -/
def saveSimpleKey : Scan Unit := do
  let s ← get
  let atBlock := s.dialect == .yaml11 || (s.indents.head?.map (·.block)).getD false
  let required := s.flowLevel == 0 && s.indent == (s.mark.col : Int) && atBlock
  if s.simpleKeyAllowed then
    if s.dialect == .yaml11 then removeSimpleKey
    setCurrentKey ⟨true, required, s.tokens.size, s.mark⟩

/-- Give up the simple keys that can no longer be keys: those on an earlier line or too
far back; under YAML 1.2 none inside a flow collection. A required one is an error. -/
def staleSimpleKeys : Scan Unit := do
  let s ← get
  let stale (k : SimpleKey) := k.possible && (s.dialect == .yaml11 || s.flowLevel == 0) &&
    (decide (k.mark.line < s.mark.line) || decide (k.mark.index + 1024 < s.mark.index))
  if s.simpleKeys.any fun k => stale k && k.required then fail s.mark "simple key expect ':'"
  set { s with simpleKeys := s.simpleKeys.map fun k => if stale k then { k with possible := false } else k }

/-- End the levels indented deeper than `col`, with a block end for each block. -/
def unrollIndent (col : Int) : Nat → Scan Unit
  | 0 => pure ()
  | n + 1 => do
    let s ← get
    if s.flowLevel == 0 && col < s.indent then
      match s.indents with
      | [] => set { s with indent := -1 }
      | l :: rest =>
        if l.block then push ⟨s.mark, .blockEnd⟩
        set { (← get) with indent := l.before, indents := rest }
      unrollIndent col n

/-- Start a block at column `col` when it is deeper than the current one, emitting `kind`
at token position `at?` or at the end; a level that starts no block gives way to it. -/
def rollIndent (col : Nat) (at? : Option Nat) (kind : TokenKind) (m : Mark) : Scan Unit := do
  let s ← get
  if s.flowLevel == 0 then
    let s := match s.indents with
      | l :: rest => if !l.block && s.indent ≤ (col : Int) then
          { s with indent := l.before, indents := rest } else s
      | [] => s
    set s
    if s.indent < (col : Int) then
      set { s with indents := ⟨s.indent, true⟩ :: s.indents, indent := col }
      match at? with
      | some i => insertAt i ⟨m, kind⟩
      | none => push ⟨m, kind⟩

/-- Under YAML 1.2, ask for one more column of indentation without starting a block, in a
block whose level is a block. -/
def rollOneColumn : Scan Unit := modify fun s =>
  match s.dialect, s.flowLevel, s.indents with
  | .yaml12, 0, l :: rest =>
    if l.block then { s with indents := ⟨s.indent, false⟩ :: l :: rest, indent := s.indent + 1 }
    else s
  | _, _, _ => s

/-- Give up the levels on top that start no block. -/
def unrollLevels : Nat → Scan Unit
  | 0 => pure ()
  | n + 1 => do
    let s ← get
    match s.indents with
    | l :: rest =>
      if !l.block then
        set { s with indent := l.before, indents := rest }
        unrollLevels n
    | [] => pure ()

/-- Move past blanks and a comment up to the end of the line, where a comment must come
after a blank; gives whether a tab and whether a space were passed. -/
def skipSpaceToLineEnd : Nat → Bool → Bool → Scan (Bool × Bool)
  | 0, tab, space => pure (tab, space)
  | n + 1, tab, space => do
    let c ← cur
    if c == ' ' then
      advance
      skipSpaceToLineEnd n tab true
    else if c == '\t' then
      advance
      skipSpaceToLineEnd n true space
    else if c == '#' then
      if !tab && !space then fail (← here) "comments must be separated from other tokens by whitespace"
      let d ← textDialect
      skipWhile (fun c => !d.isBreakOrEnd c) (← fuel)
      pure (tab, space)
    else pure (tab, space)

/-- Move past blanks and a comment to the end of the line under YAML 1.2, where a
comment must come after a blank. -/
def skipGap : Scan Unit := do
  if (← textDialect) == .yaml12 then
    let _ ← skipSpaceToLineEnd (← fuel) false false

/-- Move past blanks, line breaks and comments up to the next token. Under YAML 1.1 a
tab is skipped only inside a flow collection or where no simple key may start, and a
byte order mark at the start of a line is skipped; under YAML 1.2 a tab is skipped
unless it stands in the indentation of a block on a line with content. -/
def skipToNextToken : Nat → Scan Unit
  | 0 => pure ()
  | n + 1 => do
    let s ← get
    let d := s.dialect
    let c ← cur
    if d == .yaml11 && c == '\uFEFF' && s.mark.col == 0 then
      advance
      skipToNextToken n
    else if d == .yaml12 && c == '\t' && !s.indents.isEmpty && s.lineStart &&
        (s.mark.col : Int) < s.indent then
      let _ ← skipSpaceToLineEnd (← fuel) false false
      if !d.isBreakOrEnd (← cur) then
        fail (← here) "tabs disallowed within this context (block indentation)"
      skipToNextToken n
    else if c == ' ' || (c == '\t' && (d == .yaml12 || s.flowLevel > 0 || !s.simpleKeyAllowed)) then
      advance
      skipToNextToken n
    else if d.isBreak c then
      skipBreak
      if s.flowLevel == 0 then setSimpleKeyAllowed true
      skipToNextToken n
    else if c == '#' then
      skipWhile (fun c => !d.isBreakOrEnd c) (← fuel)
      skipToNextToken n

/-- The stream end, after ending every block. -/
def fetchStreamEnd : Scan Unit := do
  let s ← get
  if s.mark.col != 0 then set { s with mark := ⟨s.mark.index, s.mark.line + 1, 0⟩ }
  unrollIndent (-1) (← get).indents.length.succ
  removeSimpleKey
  setSimpleKeyAllowed false
  push ⟨← here, .streamEnd⟩

/-- A document start or end marker, which ends every block. -/
def fetchDocumentIndicator (kind : TokenKind) : Scan Unit := do
  unrollIndent (-1) (← get).indents.length.succ
  removeSimpleKey
  setSimpleKeyAllowed false
  let m ← here
  advanceBy 3
  let d ← textDialect
  if d == .yaml12 then
    match kind with
    | .documentEnd =>
      skipGap
      if !d.isBreakOrEnd (← cur) then fail (← here) "invalid content after document end marker"
    | _ => pure ()
  push ⟨m, kind⟩

/-- Close the one-pair mapping without braces open in the innermost flow sequence, if any
(YAML 1.2). -/
def endImplicitMapping : Scan Unit := modify fun s =>
  match s.implicitMappings with
  | true :: rest => { s with mappingStarted := false, implicitMappings := false :: rest }
  | _ => s

/-- `[` or `{`: a flow collection starts, and may be a simple key. -/
def fetchFlowCollectionStart (kind : TokenKind) : Scan Unit := do
  saveSimpleKey
  rollOneColumn
  let s ← get
  if s.dialect == .yaml12 && s.flowLevel ≥ 255 then fail s.mark "recursion limit exceeded"
  modify fun s => { s with simpleKeys := SimpleKey.none :: s.simpleKeys, flowLevel := s.flowLevel + 1 }
  setSimpleKeyAllowed true
  let m ← here
  advance
  if s.dialect == .yaml12 then
    match kind with
    | .flowMappingStart => modify fun s => { s with mappingStarted := true }
    | _ => modify fun s => { s with implicitMappings := false :: s.implicitMappings }
  skipGap
  push ⟨m, kind⟩

/-- `]` or `}`: a flow collection ends. -/
def fetchFlowCollectionEnd (kind : TokenKind) : Scan Unit := do
  removeSimpleKey
  modify fun s =>
    if s.flowLevel > 0 then { s with flowLevel := s.flowLevel - 1, simpleKeys := s.simpleKeys.tail }
    else s
  setSimpleKeyAllowed false
  if (← textDialect) == .yaml12 then
    match kind with
    | .flowSequenceEnd =>
      endImplicitMapping
      modify fun s => { s with implicitMappings := s.implicitMappings.tail }
    | _ => pure ()
  let m ← here
  advance
  skipGap
  push ⟨m, kind⟩
  modify fun s => { s with adjacentValueAt := some s.mark.index }

/-- `,` between flow entries. -/
def fetchFlowEntry : Scan Unit := do
  removeSimpleKey
  setSimpleKeyAllowed true
  if (← textDialect) == .yaml12 then endImplicitMapping
  let m ← here
  advance
  skipGap
  push ⟨m, .flowEntry⟩

/-- `-` before a block sequence entry, starting the sequence when it is deeper. Under
YAML 1.2 a tab after it may not separate it from another `-` entry, and an entry that
ends its line or opens a flow collection asks for one more column of indentation. -/
def fetchBlockEntry : Scan Unit := do
  let s ← get
  if s.flowLevel == 0 then
    if !s.simpleKeyAllowed then
      fail s.mark "block sequence entries are not allowed in this context"
    rollIndent s.mark.col none .blockSequenceStart s.mark
  else fail s.mark "\"-\" is only valid inside a block"
  let m ← here
  advance
  if s.dialect == .yaml12 then
    let (tab, _) ← skipSpaceToLineEnd (← fuel) false false
    if tab && (← cur) == '-' && isBlankOrEnd (← look 1) then
      fail (← here) "'-' must be followed by a valid YAML whitespace"
    let c ← cur
    if isBreak c || isFlowIndicator c then rollOneColumn
  removeSimpleKey
  setSimpleKeyAllowed true
  push ⟨m, .blockEntry⟩

/-- Move past the white space after `?` under YAML 1.2: spaces, line breaks and comments,
of which there must be a space or a break. -/
def skipKeySpace : Nat → Bool → Scan Unit
  | 0, _ => pure ()
  | n + 1, needed => do
    let s ← get
    let c ← cur
    if c == ' ' then
      advance
      skipKeySpace n false
    else if s.dialect.isBreak c then
      skipBreak
      if s.flowLevel == 0 then setSimpleKeyAllowed true
      skipKeySpace n false
    else if c == '#' then
      skipWhile (fun c => !s.dialect.isBreakOrEnd c) (← fuel)
      skipKeySpace n needed
    else if needed then fail s.mark "expected whitespace"

/-- `?` before a complex key. -/
def fetchKey : Scan Unit := do
  let s ← get
  if s.flowLevel == 0 then
    if !s.simpleKeyAllowed then fail s.mark "mapping keys are not allowed in this context"
    rollIndent s.mark.col none .blockMappingStart s.mark
  else if s.dialect == .yaml12 then modify fun s => { s with mappingStarted := true }
  removeSimpleKey
  setSimpleKeyAllowed (s.flowLevel == 0)
  let m ← here
  advance
  if s.dialect == .yaml12 then
    skipKeySpace (← fuel) true
    if (← cur) == '\t' then fail (← here) "tabs disallowed in this context"
  push ⟨m, .key⟩

/-- `:` before a value: the possible simple key becomes a key, or the value follows a
complex key. Under YAML 1.2 a tab after the `:` must not be all that separates it from
a plain scalar, and inside a flow sequence the key of a one-pair mapping must be on the
line of its `:`. -/
def fetchValue : Scan Unit := do
  let k ← currentKey
  let m ← here
  let s ← get
  let implicit := s.dialect == .yaml12 && !s.implicitMappings.isEmpty && !s.mappingStarted
  if implicit then modify fun s => { s with implicitMappings := true :: s.implicitMappings.tail }
  advance
  if s.dialect == .yaml12 && (← cur) == '\t' then
    let (_, space) ← skipSpaceToLineEnd (← fuel) false false
    let c ← cur
    if !space && (c == '-' || isWordChar c) then
      fail (← here) "':' must be followed by a valid YAML whitespace"
  if k.possible then
    if implicit && k.mark.line < m.line then fail m "illegal placement of ':' indicator"
    insertAt k.tokenNumber ⟨k.mark, .key⟩
    rollIndent k.mark.col (some k.tokenNumber) .blockMappingStart m
    rollOneColumn
    setCurrentKey { k with possible := false }
    setSimpleKeyAllowed false
  else
    let s ← get
    if s.flowLevel == 0 then
      if !s.simpleKeyAllowed then fail m "mapping values are not allowed in this context"
      rollIndent m.col none .blockMappingStart m
    rollOneColumn
    setSimpleKeyAllowed (s.flowLevel == 0)
  push ⟨m, .value⟩

/-- A printable character: tab, line feed, carriage return, printable ASCII, NEL, and the
characters from U+A0 on except the surrogates and U+FFFE and U+FFFF. -/
def isPrintable (c : Char) : Bool := isAllowedChar c

/-- A character of an anchor name under YAML 1.2: printable, and neither white space, a
flow indicator nor a byte order mark. -/
def isAnchorChar (c : Char) : Bool :=
  isPrintable c && !isBlankOrEnd c && !isFlowIndicator c && c != '\uFEFF'

/-- `&name` or `*name`. -/
def fetchAnchor (isAlias : Bool) : Scan Unit := do
  saveSimpleKey
  setSimpleKeyAllowed false
  let m ← here
  advance
  let d ← textDialect
  let name ← takeWhile (if d == .yaml12 then isAnchorChar else isWordChar) (← fuel)
  let c ← cur
  let fine := d == .yaml12 || isBlankOrEnd c || c == '?' || c == ':' || c == ',' || c == ']' ||
    c == '}' || c == '%' || c == '@' || c == '`'
  if name.isEmpty || !fine then
    fail m "while scanning an anchor or alias, did not find expected alphabetic or numeric character"
  push ⟨m, if isAlias then .alias name else .anchor name⟩

/-- A character allowed in a tag URI; YAML 1.2 also allows `#`. -/
def isUriChar (d : Dialect) (c : Char) : Bool :=
  isWordChar c || ";/?:@&=+$,.!~*'()[]%".toList.contains c || (d == .yaml12 && c == '#')

/-- A character of a tag suffix under YAML 1.2: a URI character that is neither a flow
indicator nor `!`. -/
def isTagChar (c : Char) : Bool := isUriChar .yaml12 c && !isFlowIndicator c && c != '!'

/-- A tag handle: `!`, `!!` or `!word!`; in a tag token a handle without its closing `!`
is part of the suffix. -/
def scanTagHandle (directive : Bool) (m : Mark) : Scan String := do
  if (← cur) != '!' then fail m "while scanning a tag, did not find expected '!'"
  advance
  let word ← takeWhile isWordChar (← fuel)
  if (← cur) == '!' then
    advance
    return "!" ++ word ++ "!"
  else if directive && word != "" then
    fail m "while parsing a tag directive, did not find expected '!'"
  else return "!" ++ word

/-- A tag URI, after the characters `head` already read (less its leading `!`); under
YAML 1.2 a suffix takes tag characters only. -/
def scanTagUri (suffix : Bool) (head : String) (m : Mark) : Scan String := do
  let d ← textDialect
  let body ← takeWhile (if suffix && d == .yaml12 then isTagChar else isUriChar d) (← fuel)
  let rest := String.ofList (head.toList.drop 1)
  if head.length + body.length == 0 then
    fail m "while parsing a tag, did not find expected tag URI"
  return rest ++ body

/-- `!suffix`, `!handle!suffix` or `!<uri>`. -/
def fetchTag : Scan Unit := do
  saveSimpleKey
  setSimpleKeyAllowed false
  let d ← textDialect
  let m ← here
  let (handle, suffix) ← do
    if (← look 1) == '<' then
      advanceBy 2
      let uri ← if d == .yaml12 then takeWhile (isUriChar d) (← fuel) else scanTagUri false "" m
      if (← cur) != '>' then
        fail m (if d == .yaml12 then "while scanning a verbatim tag, did not find the expected '>'"
          else "while scanning a tag, did not find the expected '>'")
      advance
      pure ("", uri)
    else
      let h ← scanTagHandle false m
      if h.length ≥ 2 && h.startsWith "!" && h.endsWith "!" then
        pure (h, ← scanTagUri true "" m)
      else
        let suffix ← scanTagUri true h m
        if suffix.isEmpty then pure ("", "!") else pure ("!", suffix)
  let c ← cur
  let s ← get
  if !(isBlankOrEnd c || (d == .yaml12 && s.flowLevel > 0 && isFlowIndicator c)) then
    fail m "while scanning a tag, did not find expected whitespace or line break"
  push ⟨m, .tag handle suffix⟩

/-- Move past blanks and a comment to the end of the line. -/
def skipToLineEnd : Scan Unit := do
  let d ← textDialect
  skipWhile isBlank (← fuel)
  if (← cur) == '#' then skipWhile (fun c => !d.isBreakOrEnd c) (← fuel)

/-- The prefix of a `%TAG` directive under YAML 1.2: `!` or a tag character first, then
URI characters. -/
def scanTagPrefix (m : Mark) : Scan String := do
  let c ← cur
  if c == '!' then
    advance
  else if !isTagChar c then fail m "invalid global tag character"
  else advance
  let rest ← takeWhile (isUriChar .yaml12) (← fuel)
  return String.singleton c ++ rest

/-- A version number of at most nine digits. -/
def scanVersionNumber (m : Mark) : Scan Nat := do
  let digits ← takeWhile Char.isDigit (← fuel)
  if digits.length > 9 then
    fail m "while scanning a YAML directive, found extremely long version number"
  if digits.isEmpty then
    fail m "while scanning a YAML directive, did not find expected version number"
  return digits.toNat!

/-- `%YAML major.minor` or `%TAG handle prefix`. Another directive is skipped under
YAML 1.2 and refused under YAML 1.1. -/
def fetchDirective : Scan Unit := do
  unrollIndent (-1) (← get).indents.length.succ
  removeSimpleKey
  setSimpleKeyAllowed false
  let d ← textDialect
  let m ← here
  advance
  let nameMark ← here
  let name ← takeWhile isWordChar (← fuel)
  if name.isEmpty then
    fail nameMark "while scanning a directive, could not find expected directive name"
  if !d.isBlankOrEnd (← cur) then
    fail nameMark "while scanning a directive, found unexpected non-alphabetical character"
  let kind ← do
    if name == "YAML" then
      skipWhile isBlank (← fuel)
      let major ← scanVersionNumber m
      if (← cur) != '.' then
        fail m "while scanning a YAML directive, did not find expected digit or '.' character"
      advance
      let minor ← scanVersionNumber m
      pure (TokenKind.versionDirective major minor)
    else if name == "TAG" then
      skipWhile isBlank (← fuel)
      let handle ← scanTagHandle true m
      skipWhile isBlank (← fuel)
      let pfx ← if d == .yaml12 then scanTagPrefix m else scanTagUri false "" m
      if !d.isBlankOrEnd (← cur) then
        fail m "while scanning TAG, did not find expected whitespace or line break"
      pure (TokenKind.tagDirective handle pfx)
    else if d == .yaml11 then
      fail m "while scanning a directive, found unknown directive name"
    else
      skipWhile (fun c => !d.isBreakOrEnd c) (← fuel)
      pure (TokenKind.tagDirective "" "")
  skipToLineEnd
  if !d.isBreakOrEnd (← cur) then
    fail m "while scanning a directive, did not find expected comment or line break"
  skipBreak
  push ⟨m, kind⟩

/-- Whether the text at the current position is a document marker `---` or `...` at the
start of a line. -/
def atDocumentIndicator : Scan Bool := do
  let s ← get
  let (a, b, c, e) := (← look 0, ← look 1, ← look 2, ← look 3)
  return s.mark.col == 0 && s.dialect.isBlankOrEnd e &&
    ((a == '-' && b == '-' && c == '-') || (a == '.' && b == '.' && c == '.'))

/-- Line folding of flow and plain scalars: a first line feed of a run of breaks becomes a
space when no other break follows it, and is dropped otherwise; a first LS or PS is kept. -/
def fold (leadingBreak trailingBreaks : String) : String :=
  if leadingBreak.isEmpty then trailingBreaks
  else if leadingBreak != "\n" then leadingBreak ++ trailingBreaks
  else if trailingBreaks.isEmpty then " " else trailingBreaks

/-- The text of an escape `\c` in a double-quoted scalar, or the number of hex digits it
takes; `\'` is an escape under YAML 1.1 only. -/
def escapeOf (d : Dialect) (c : Char) : Option (Sum String Nat) :=
  match c with
  | '0' => some (.inl "\x00")
  | 'a' => some (.inl "\x07")
  | 'b' => some (.inl "\x08")
  | 't' | '\t' => some (.inl "\t")
  | 'n' => some (.inl "\n")
  | 'v' => some (.inl "\x0b")
  | 'f' => some (.inl "\x0c")
  | 'r' => some (.inl "\r")
  | 'e' => some (.inl "\x1b")
  | ' ' => some (.inl " ")
  | '"' => some (.inl "\"")
  | '\'' => if d == .yaml11 then some (.inl "'") else none
  | '\\' => some (.inl "\\")
  | '/' => some (.inl "/")
  | 'N' => some (.inl "\u0085")
  | '_' => some (.inl "\u00A0")
  | 'L' => some (.inl "\u2028")
  | 'P' => some (.inl "\u2029")
  | 'x' => some (.inr 2)
  | 'u' => some (.inr 4)
  | 'U' => some (.inr 8)
  | _ => none

/-- Read `n` hexadecimal digits as a number. -/
def hexNumber (m : Mark) : Nat → Nat → Scan Nat
  | 0, acc => pure acc
  | n + 1, acc => do
    let c ← cur
    if !isHexDigit c then
      fail m "while parsing a quoted scalar, did not find expected hexdecimal number"
    advance
    hexNumber m n (acc * 16 + hexDigitValue c)

/-- The non-blank characters of a quoted scalar up to a blank, a break or the closing
quote; also whether an escaped line break ended them. -/
def quotedRun (single : Bool) (m : Mark) : Nat → Scan (String × Bool)
  | 0 => pure ("", false)
  | n + 1 => do
    let d ← textDialect
    let c ← cur
    let nc ← look 1
    if d.isBlankOrEnd c then return ("", false)
    if single && c == '\'' && nc == '\'' then
      advanceBy 2
      let (rest, esc) ← quotedRun single m n
      return ("'" ++ rest, esc)
    if (single && c == '\'') || (!single && c == '"') then return ("", false)
    if !single && c == '\\' && d.isBreak nc then
      advance
      skipBreak
      return ("", true)
    if !single && c == '\\' then
      let text ← match escapeOf d nc with
        | some (.inl t) => do advanceBy 2; pure t
        | some (.inr len) => do
          advanceBy 2
          let code ← hexNumber m len 0
          if code > 0x10FFFF || (0xD800 ≤ code && code ≤ 0xDFFF) then
            fail m "while parsing a quoted scalar, found invalid Unicode character escape code"
          pure (String.singleton (Char.ofNat code))
        | none => fail m "while parsing a quoted scalar, found unknown escape character"
      let (rest, esc) ← quotedRun single m n
      return (text ++ rest, esc)
    advance
    let (rest, esc) ← quotedRun single m n
    return (String.singleton c ++ rest, esc)

/-- Blanks and line breaks inside a scalar: the blanks before the first break, the first
break, and the breaks after it; blanks at the start of a line are dropped. -/
structure Gap where
  whitespace : String
  leadingBreak : String
  trailingBreaks : String
  leadingBlanks : Bool

/-- Read the blanks and breaks at the current position into `g`; under YAML 1.2 a tab in
the indentation of a block is an error. -/
def readGap (g : Gap) : Nat → Scan Gap
  | 0 => pure g
  | n + 1 => do
    let s ← get
    let c ← cur
    if isBlank c then
      if s.dialect == .yaml12 && g.leadingBlanks && c == '\t' && (s.mark.col : Int) < s.indent then
        fail s.mark "tab cannot be used as indentation"
      advance
      readGap (if g.leadingBlanks then g else { g with whitespace := g.whitespace.push c }) n
    else if s.dialect.isBreak c then
      let b ← readBreak
      if g.leadingBlanks then readGap { g with trailingBreaks := g.trailingBreaks ++ b } n
      else readGap { g with whitespace := "", leadingBreak := b, leadingBlanks := true } n
    else pure g

/-- The text a gap stands for between two runs of a scalar. -/
def Gap.text (g : Gap) : String :=
  if g.leadingBlanks then fold g.leadingBreak g.trailingBreaks else g.whitespace

/-- The body of a quoted scalar after its opening quote, up to and past the closing one.
Under YAML 1.2 a line of it indented less than its block is an error. -/
def quotedBody (single : Bool) (m : Mark) : Nat → Bool → Scan String
  | 0, _ => pure ""
  | n + 1, first => do
    if ← atDocumentIndicator then
      fail m "while scanning a quoted scalar, found unexpected document indicator"
    if isEnd (← cur) then
      fail m "while scanning a quoted scalar, found unexpected end of stream"
    let s ← get
    if s.dialect == .yaml12 && !first && (s.mark.col : Int) < s.indent then
      fail m "invalid indentation in quoted scalar"
    let (run, escaped) ← quotedRun single m (← fuel)
    let c ← cur
    if (single && c == '\'') || (!single && c == '"') then
      advance
      return run
    let g ← readGap ⟨"", "", "", escaped⟩ (← fuel)
    let rest ← quotedBody single m n false
    return run ++ g.text ++ rest

/-- A single- or double-quoted scalar. Under YAML 1.2 only a comment, the end of the
line, `:`, or in a flow collection `,`, `]` or `}` may follow it on its line. -/
def fetchFlowScalar (single : Bool) : Scan Unit := do
  saveSimpleKey
  setSimpleKeyAllowed false
  let m ← here
  advance
  let text ← quotedBody single m (← fuel) true
  let d ← textDialect
  if d == .yaml12 then
    let _ ← skipSpaceToLineEnd (← fuel) false false
    let s ← get
    let c ← cur
    let fine := d.isBreakOrEnd c ||
      (s.flowLevel > 0 && (c == ',' || c == ']' || c == '}' || c == ':')) ||
      (c == ':' && m.line == s.mark.line)
    if !fine then fail s.mark "invalid trailing content after double-quoted scalar"
    skipToNextToken (← fuel)
  modify fun s => { s with adjacentValueAt := some s.mark.index }
  push ⟨m, .scalar (if single then .singleQuoted else .doubleQuoted) text⟩

/-- Whether the current character ends a run of a plain scalar. -/
def endsPlainRun : Scan Bool := do
  let s ← get
  let d := s.dialect
  let c ← cur
  let nc ← look 1
  return d.isBlankOrEnd c ||
    (c == ':' && (d.isBlankOrEnd nc || (s.flowLevel > 0 && isFlowIndicator nc))) ||
    (s.flowLevel > 0 && isFlowIndicator c)

/-- The characters of one run of a plain scalar. -/
def plainRun : Nat → Scan String
  | 0 => pure ""
  | n + 1 => do
    if ← endsPlainRun then return ""
    let c ← take
    return String.singleton c ++ (← plainRun n)

/-- Read the blanks and breaks after a run of a plain scalar. A tab in the indentation
of a continuation line is an error, but under YAML 1.2 only on a line with content. -/
def plainGap (indent : Int) (start : Mark) (g : Gap) : Nat → Scan Gap
  | 0 => pure g
  | n + 1 => do
    let d ← textDialect
    let c ← cur
    if isBlank c then
      if g.leadingBlanks && ((← here).col : Int) < indent && c == '\t' then
        if d == .yaml11 then fail start "while scanning a plain scalar, found a tab"
        let _ ← skipSpaceToLineEnd (← fuel) false false
        if !d.isBreakOrEnd (← cur) then fail start "while scanning a plain scalar, found a tab"
        plainGap indent start g n
      else
        advance
        plainGap indent start (if g.leadingBlanks then g else { g with whitespace := g.whitespace.push c }) n
    else if d.isBreak c then
      let b ← readBreak
      if g.leadingBlanks then plainGap indent start { g with trailingBreaks := g.trailingBreaks ++ b } n
      else plainGap indent start { g with whitespace := "", leadingBreak := b, leadingBlanks := true } n
    else pure g

/-- The runs of a plain scalar and the gaps between them, up to a comment, a document
marker, an indicator that ends it, or a line indented at most as its block. -/
def plainBody (indent : Int) (start : Mark) (pending : Gap) : Nat → Scan (String × Bool)
  | 0 => pure ("", pending.leadingBlanks)
  | n + 1 => do
    if (← atDocumentIndicator) || (← cur) == '#' then return ("", pending.leadingBlanks)
    let run ← plainRun (← fuel)
    let lead := if run.isEmpty then "" else pending.text
    let pending := if run.isEmpty then pending else ⟨"", "", "", false⟩
    let d ← textDialect
    let c ← cur
    if !(isBlank c || d.isBreak c) then return (lead ++ run, pending.leadingBlanks)
    let g ← plainGap indent start pending (← fuel)
    let s ← get
    if s.flowLevel == 0 && (s.mark.col : Int) < indent then return (lead ++ run, g.leadingBlanks)
    let (rest, blanks) ← plainBody indent start g n
    return (lead ++ run ++ rest, blanks)

/-- A plain scalar, which may be a simple key. Under YAML 1.2 one inside a flow
collection must be indented more than its block. -/
def fetchPlainScalar : Scan Unit := do
  saveSimpleKey
  setSimpleKeyAllowed false
  unrollLevels (← get).indents.length
  let s ← get
  let m := s.mark
  if s.dialect == .yaml12 && s.flowLevel > 0 && (m.col : Int) < s.indent + 1 then
    fail m "invalid indentation in flow construct"
  let (text, leadingBlanks) ← plainBody (s.indent + 1) m ⟨"", "", "", false⟩ (← fuel)
  if leadingBlanks then setSimpleKeyAllowed true
  push ⟨m, .scalar .plain text⟩

/-- The breaks before a line of a block scalar, and the line's indentation: spaces up to
`indent`, or any number while the indentation is still unknown. Under YAML 1.1 a tab
where an indentation space is expected is an error. -/
def blockBreaks (indent : Nat) (maxIndent : Nat) (breaks : String) : Nat → Scan (String × Nat)
  | 0 => pure (breaks, maxIndent)
  | n + 1 => do
    let d ← textDialect
    let f ← fuel
    let col0 := (← here).col
    let room := if indent == 0 then f else indent - col0
    skipWhile (fun c => c == ' ') room
    let col := (← here).col
    let maxIndent := max maxIndent col
    if d == .yaml11 && (indent == 0 || col < indent) && (← cur) == '\t' then
      fail (← here) "while scanning a block scalar, found a tab character where an indentation space is expected"
    if !d.isBreak (← cur) then return (breaks, maxIndent)
    let b ← readBreak
    blockBreaks indent maxIndent (breaks ++ b) n

/-- The indentation of a block scalar once its leading breaks are read: the given one, or
the deepest leading line and at least one more than the block; under YAML 1.1 also at
least one. -/
def settleIndent (d : Dialect) (indent maxIndent : Nat) (blockIndent : Int) : Nat :=
  if indent != 0 then indent
  else
    let i := max maxIndent (blockIndent + 1).toNat
    if d == .yaml11 then max i 1 else i

/-- The lines of a block scalar at indentation `indent`. -/
def blockLines (literal : Bool) (indent : Nat) (blockIndent : Int) :
    String → String → String → Bool → Nat → Scan (String × String × String)
  | text, leadingBreak, trailingBreaks, _, 0 => pure (text, leadingBreak, trailingBreaks)
  | text, leadingBreak, trailingBreaks, leadingBlank, n + 1 => do
    if (← here).col != indent || isEnd (← cur) then return (text, leadingBreak, trailingBreaks)
    if indent == 0 && (← atDocumentIndicator) then return (text, leadingBreak, trailingBreaks)
    let d ← textDialect
    let trailingBlank := isBlank (← cur)
    let text :=
      if !literal && !leadingBreak.isEmpty && !leadingBlank && !trailingBlank then
        (if trailingBreaks.isEmpty then text ++ " " else text) ++ trailingBreaks
      else text ++ leadingBreak ++ trailingBreaks
    let leadingBlank := isBlank (← cur)
    let line ← takeWhile (fun c => !d.isBreakOrEnd c) (← fuel)
    let text := text ++ line
    if isEnd (← cur) then return (text, "", "")
    let lb ← readBreak
    let (tb, _) ← blockBreaks indent 0 "" (← fuel)
    blockLines literal indent blockIndent text lb tb leadingBlank n

/-- A literal (`|`) or folded (`>`) block scalar with its chomping and indentation
indicators. Under YAML 1.2 its content may not start with a tab, a line indented less
than the scalar but more than its block is an error, a last line without a line break
ends as if it had one, and a scalar with no content keeps the break after its header
unless stripped. -/
def fetchBlockScalar (literal : Bool) : Scan Unit := do
  saveSimpleKey
  setSimpleKeyAllowed true
  let d ← textDialect
  let m ← here
  advance
  unrollLevels (← get).indents.length
  let chompOf (c : Char) : Int := if c == '+' then 1 else if c == '-' then -1 else 0
  let zeroIndicator := "while scanning a block scalar, found an indentation indicator equal to 0"
  let (chomping, increment) ← do
    let c ← cur
    if c == '+' || c == '-' then
      advance
      let e ← cur
      if e.isDigit then
        if e == '0' then fail m zeroIndicator
        advance
        pure (chompOf c, e.toNat - '0'.toNat)
      else pure (chompOf c, 0)
    else if c.isDigit then
      if c == '0' then fail m zeroIndicator
      advance
      let e ← cur
      if e == '+' || e == '-' then
        advance
        pure (chompOf e, c.toNat - '0'.toNat)
      else pure (0, c.toNat - '0'.toNat)
    else pure (0, 0)
  if d == .yaml12 then
    let _ ← skipSpaceToLineEnd (← fuel) false false
  else skipToLineEnd
  if !d.isBreakOrEnd (← cur) then
    fail m "while scanning a block scalar, did not find expected comment or line break"
  let headerBreak ← if d.isBreak (← cur) then readBreak else pure ""
  if d == .yaml12 && (← cur) == '\t' then fail m "a block scalar content cannot start with a tab"
  let blockIndent := (← get).indent
  let indent := if increment > 0 then
      (if blockIndent ≥ 0 then (blockIndent + increment).toNat else increment) else 0
  let (breaks, maxIndent) ← blockBreaks indent 0 "" (← fuel)
  let indent := settleIndent d indent maxIndent blockIndent
  let style := if literal then ScalarStyle.literal else .folded
  let contentMark ← here
  if d == .yaml12 && isEnd (← cur) then
    let text :=
      if chomping == -1 || contentMark.line == m.line then ""
      else if chomping == 0 || breaks.isEmpty then headerBreak
      else breaks
    push ⟨m, .scalar style text⟩
  else
    if d == .yaml12 && (contentMark.col < indent) && (contentMark.col : Int) > blockIndent then
      fail contentMark "wrongly indented line in block scalar"
    let (text, leadingBreak, trailingBreaks) ←
      blockLines literal indent blockIndent "" "" breaks false (← fuel)
    let atEnd := isEnd (← cur)
    let endCol := (← here).col
    let text := if chomping != -1 then text ++ leadingBreak else text
    let text := if d == .yaml12 && chomping != -1 && atEnd && endCol ≥ max indent 1 then
      text ++ "\n" else text
    let text := if chomping == 1 then text ++ trailingBreaks else text
    push ⟨contentMark, .scalar style text⟩

/-- Scan the next token, after the blanks and comments before it. -/
def fetchNextToken : Scan Unit := do
  skipToNextToken (← fuel)
  staleSimpleKeys
  unrollIndent (← here).col (← get).indents.length.succ
  let s ← get
  let d := s.dialect
  let c ← cur
  let nc ← look 1
  if isEnd c then fetchStreamEnd
  else if s.mark.col == 0 && c == '%' then fetchDirective
  else if (← atDocumentIndicator) && c == '-' then fetchDocumentIndicator .documentStart
  else if (← atDocumentIndicator) then fetchDocumentIndicator .documentEnd
  else if d == .yaml12 && (s.mark.col : Int) < s.indent then fail s.mark "invalid indentation"
  else match c with
    | '[' => fetchFlowCollectionStart .flowSequenceStart
    | '{' => fetchFlowCollectionStart .flowMappingStart
    | ']' => fetchFlowCollectionEnd .flowSequenceEnd
    | '}' => fetchFlowCollectionEnd .flowMappingEnd
    | ',' => fetchFlowEntry
    | '*' => fetchAnchor true
    | '&' => fetchAnchor false
    | '!' => fetchTag
    | '\'' => fetchFlowScalar true
    | '"' => fetchFlowScalar false
    | '%' | '@' | '`' => fail s.mark ("unexpected character: `" ++ String.singleton c ++ "'")
    | _ =>
      if c == '-' && d.isBlankOrEnd nc then fetchBlockEntry
      else if c == '?' && d.isBlankOrEnd nc then fetchKey
      else if c == ':' && (d.isBlankOrEnd nc ||
          (s.flowLevel > 0 && (isFlowIndicator nc || s.adjacentValueAt == some s.mark.index))) then
        fetchValue
      else if (c == '|' || c == '>') && s.flowLevel == 0 then fetchBlockScalar (c == '|')
      else if c == '\t' then fail s.mark "found character that cannot start any token"
      else fetchPlainScalar

/-- Scan tokens until the stream end. -/
def fetchAll : Nat → Scan Unit
  | 0 => pure ()
  | n + 1 => do
    fetchNextToken
    match (← get).tokens.back? with
    | some ⟨_, .streamEnd⟩ => pure ()
    | _ => fetchAll n

end Scanner

/-- The first character that YAML 1.1 refuses, with its position, if any. -/
def firstRefused (text : String) : Option Mark :=
  let step (acc : Option Mark × Mark) (c : Char) : Option Mark × Mark :=
    match acc with
    | (some m, here) => (some m, here)
    | (none, here) =>
      if isAllowedChar c then (none, ⟨here.index + 1, here.line, here.col + 1⟩) else (some here, here)
  (text.toList.foldl step (none, .start)).1

/-- The tokens of a text under a dialect, and the syntax error that stopped the scan, if
any. After an error only the tokens before the earliest still possible simple key are
given. Under YAML 1.1 a byte order mark at the start is dropped, and a text with a
character that it refuses has no tokens. -/
def Token.scan (d : Dialect) (text : String) : Array Token × Option SyntaxError :=
  match d, firstRefused text with
  | .yaml11, some m => (#[], some ⟨m, "control characters are not allowed"⟩)
  | _, _ =>
    let body := match d, text.toList with
      | .yaml11, '\uFEFF' :: rest => String.ofList rest
      | _, _ => text
    let s := Scanner.start d body
    let (r, s) := (Scanner.fetchAll (s.input.length + 2)).run s
    match r with
    | .ok () => (s.tokens, none)
    | .error e =>
      let pending := s.simpleKeys.filterMap fun k => if k.possible then some k.tokenNumber else none
      let available := pending.foldl min s.tokens.size
      (s.tokens.extract 0 available, some e)

end Yaml

end Throttle
