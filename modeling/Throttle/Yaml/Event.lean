import Throttle.Yaml.Token.Scan

/-!
# YAML events

Parsing turns the tokens into the events of YAML's serialization tree: documents,
collections that start and end, scalars and aliases, with the anchors and tags of the
nodes. A value that is left out, such as the value of `key:`, is an empty plain scalar.

The parser is the usual pushdown automaton of YAML 1.1: its state says what may come next
(a block mapping's key, a flow sequence's entry, ...), and a stack holds the states to
return to when a nested node ends. A token that cannot come next is a syntax error at the
token's position, named for the construct being parsed.
-/

namespace Throttle

namespace Yaml

/-- A resolved tag: the prefix its handle stands for and its suffix. -/
structure Tag where
  pfx : String
  suffix : String
deriving DecidableEq, Inhabited

/-- The prefix of the `!!` handle unless a directive changes it. -/
def corePrefix : String := "tag:yaml.org,2002:"

/-- One event of a YAML stream. -/
inductive Event where
  | streamStart
  | streamEnd
  | documentStart
  | documentEnd
  | alias (name : String)
  | scalar (text : String) (style : ScalarStyle) (anchor : Option String) (tag : Option Tag)
  | sequenceStart (anchor : Option String) (tag : Option Tag)
  | sequenceEnd
  | mappingStart (anchor : Option String) (tag : Option Tag)
  | mappingEnd
deriving Inhabited

/-- The plain scalar that stands for a value left out: empty under YAML 1.1, `~` under
YAML 1.2. -/
def Event.empty : Dialect → Event
  | .yaml11 => .scalar "" .plain none none
  | .yaml12 => .scalar "~" .plain none none

/-- What the parser expects next. -/
inductive ParseState where
  | streamStart
  | implicitDocumentStart
  | documentStart
  | documentContent
  | documentEnd
  | blockNode
  | blockMappingFirstKey
  | blockMappingKey
  | blockMappingValue
  | blockSequenceFirstEntry
  | blockSequenceEntry
  | indentlessSequenceEntry
  | flowSequenceFirstEntry
  | flowSequenceEntry
  | flowSequenceEntryMappingKey
  | flowSequenceEntryMappingValue
  | flowSequenceEntryMappingEnd
  | flowMappingFirstKey
  | flowMappingKey
  | flowMappingValue
  | flowMappingEmptyValue
  | finished
deriving DecidableEq, Inhabited

/-- The parser: the dialect, the tokens, the position of the next one, the error that
ended the tokens early, the current state and the states to return to, the anchors
defined so far, the tag directives of the current document, and the position of the
token looked at last, where an event is placed. -/
structure Parser where
  dialect : Dialect
  tokens : Array Token
  pos : Nat
  scanError : Option SyntaxError
  state : ParseState
  states : List ParseState
  anchors : List String
  tagDirectives : List (String × String)
  mark : Mark
deriving Inhabited

/-- A parsing step. -/
abbrev Parse := StateT Parser (Except SyntaxError)

namespace Parser

/-- Fail at `m`. -/
def fail {α : Type} (m : Mark) (info : String) : Parse α := throw ⟨m, info⟩

/-- The next token; past the available tokens, the error that ended them. -/
def peek : Parse Token := do
  let p ← get
  match p.tokens[p.pos]? with
  | some t =>
    set { p with mark := t.mark }
    pure t
  | none =>
    match p.scanError with
    | some e => throw e
    | none => fail ((p.tokens.back?.map (·.mark)).getD .start) "unexpected eof"

/-- Move past the next token. -/
def skip : Parse Unit := modify fun p => { p with pos := p.pos + 1 }

/-- The next token, then move past it. -/
def next : Parse Token := do
  let t ← peek
  skip
  return t

/-- Continue in state `s`. -/
def goto (s : ParseState) : Parse Unit := modify fun p => { p with state := s }

/-- Remember `s` as the state to return to. -/
def pushState (s : ParseState) : Parse Unit := modify fun p => { p with states := s :: p.states }

/-- Return to the last remembered state. -/
def popState : Parse Unit := modify fun p =>
  { p with state := p.states.headD .finished, states := p.states.tail }

/-- An event, placed at the token looked at last. -/
def emit (e : Event) : Parse Event := pure e

/-- The event of a value left out. -/
def emitEmpty : Parse Event := return Event.empty (← get).dialect

/-- Read the directives before a document. A second version directive is an error.
Under YAML 1.1 the version must be 1.1 or 1.2 and a handle declared twice is an error;
under YAML 1.2 each directive replaces the handles of those before it, and a version
directive clears them. -/
def directives : Nat → Bool → List (String × String) → Parse (List (String × String))
  | 0, _, tags => pure tags
  | n + 1, seenVersion, tags => do
    let d := (← get).dialect
    let t ← peek
    match t.kind with
    | .versionDirective major minor =>
      if seenVersion then
        fail t.mark (if d == .yaml11 then "found duplicate %YAML directive"
          else "duplicate version directive")
      if d == .yaml11 && (major != 1 || (minor != 1 && minor != 2)) then
        fail t.mark "found incompatible YAML document"
      skip
      directives n true (if d == .yaml11 then tags else [])
    | .tagDirective handle pfx =>
      if d == .yaml11 && tags.any (·.1 == handle) then
        fail t.mark "found duplicate %TAG directive"
      skip
      directives n seenVersion (if d == .yaml11 then tags ++ [(handle, pfx)] else [(handle, pfx)])
    | _ => pure tags

/-- Read the directives and record the document's tag handles. -/
def processDirectives : Parse Unit := do
  let p ← get
  let tags ← directives (p.tokens.size - p.pos + 1) false []
  modify fun p => { p with tagDirectives := tags }

/-- Resolve a tag's handle through the document's directives. -/
def resolveTag (m : Mark) (handle suffix : String) : Parse Tag := do
  let tags := (← get).tagDirectives
  if handle == "!!" then pure ⟨(tags.lookup "!!").getD corePrefix, suffix⟩
  else if handle.isEmpty && suffix == "!" then pure ⟨(tags.lookup "").getD "", suffix⟩
  else match tags.lookup handle with
    | some pfx => pure ⟨pfx, suffix⟩
    | none =>
      if handle.length ≥ 2 && handle.startsWith "!" && handle.endsWith "!" then
        fail m "the handle wasn't declared"
      else pure ⟨handle, suffix⟩

/-- The start of an explicit document. -/
def explicitDocumentStart : Parse Event := do
  processDirectives
  let t ← peek
  match t.kind with
  | .documentStart =>
    pushState .documentEnd
    goto .documentContent
    skip
    emit .documentStart
  | _ => fail t.mark "did not find expected <document start>"

/-- A document start, or the stream end. Document end markers before it are skipped. -/
def documentStart (implicit : Bool) : Nat → Parse Event
  | 0 => explicitDocumentStart
  | n + 1 => do
    let t ← peek
    match t.kind with
    | .documentEnd => skip; documentStart implicit n
    | .streamEnd =>
      goto .finished
      skip
      emit .streamEnd
    | .versionDirective _ _ | .tagDirective _ _ | .documentStart => explicitDocumentStart
    | _ =>
      if implicit then
        processDirectives
        pushState .documentEnd
        goto .blockNode
        emit .documentStart
      else explicitDocumentStart

/-- A node: an alias, or a scalar or collection with its optional anchor and tag.
`block` allows block collections; `indentless` allows a sequence of `-` entries at the
indentation of the enclosing mapping. -/
def node (block indentless : Bool) : Parse Event := do
  let t ← peek
  match t.kind with
  | .alias name =>
    popState
    skip
    if (← get).anchors.contains name then emit (.alias name)
    else fail t.mark "while parsing node, found unknown anchor"
  | _ =>
    let registerAnchor (name : String) : Parse Unit :=
      modify fun p => { p with anchors := name :: p.anchors }
    let (anchor, tag) ← do
      match t.kind with
      | .anchor name =>
        skip
        registerAnchor name
        let u ← peek
        match u.kind with
        | .tag h s => skip; pure (some name, some (← resolveTag t.mark h s))
        | _ => pure (some name, none)
      | .tag h s =>
        skip
        let tag ← resolveTag t.mark h s
        let u ← peek
        match u.kind with
        | .anchor name => skip; registerAnchor name; pure (some name, some tag)
        | _ => pure (none, some tag)
      | _ => pure (none, none)
    let u ← peek
    match u.kind with
    | .blockEntry =>
      if indentless then
        goto .indentlessSequenceEntry
        emit (.sequenceStart anchor tag)
      else if anchor.isSome || tag.isSome then
        popState
        emit (.scalar "" .plain anchor tag)
      else fail u.mark "while parsing a node, did not find expected node content"
    | .scalar style text =>
      popState
      skip
      emit (.scalar text style anchor tag)
    | .flowSequenceStart =>
      goto .flowSequenceFirstEntry
      emit (.sequenceStart anchor tag)
    | .flowMappingStart =>
      goto .flowMappingFirstKey
      emit (.mappingStart anchor tag)
    | .blockSequenceStart =>
      if block then
        goto .blockSequenceFirstEntry
        emit (.sequenceStart anchor tag)
      else if anchor.isSome || tag.isSome then
        popState
        emit (.scalar "" .plain anchor tag)
      else fail u.mark "while parsing a node, did not find expected node content"
    | .blockMappingStart =>
      if block then
        goto .blockMappingFirstKey
        emit (.mappingStart anchor tag)
      else if anchor.isSome || tag.isSome then
        popState
        emit (.scalar "" .plain anchor tag)
      else fail u.mark "while parsing a node, did not find expected node content"
    | _ =>
      if anchor.isSome || tag.isSome then
        popState
        emit (.scalar "" .plain anchor tag)
      else fail u.mark "while parsing a node, did not find expected node content"

/-- Whether a token is a key, a value or a block end. -/
def isKeyValueOrEnd : TokenKind → Bool
  | .key | .value | .blockEnd => true
  | _ => false

/-- A key of a block mapping, or its end. -/
def blockMappingKey (first : Bool) : Parse Event := do
  if first then skip
  let t ← peek
  match t.kind with
  | .key =>
    skip
    let u ← peek
    if isKeyValueOrEnd u.kind then
      goto .blockMappingValue
      emitEmpty
    else
      pushState .blockMappingValue
      node true true
  | .value =>
    goto .blockMappingValue
    emitEmpty
  | .blockEnd =>
    popState
    skip
    emit .mappingEnd
  | _ => fail t.mark "while parsing a block mapping, did not find expected key"

/-- A value of a block mapping; absent, it is empty. -/
def blockMappingValue : Parse Event := do
  let t ← peek
  match t.kind with
  | .value =>
    skip
    let u ← peek
    if isKeyValueOrEnd u.kind then
      goto .blockMappingKey
      emitEmpty
    else
      pushState .blockMappingKey
      node true true
  | _ =>
    goto .blockMappingKey
    emitEmpty

/-- An entry of a block sequence, or its end. -/
def blockSequenceEntry (first : Bool) : Parse Event := do
  if first then skip
  let t ← peek
  match t.kind with
  | .blockEnd =>
    popState
    skip
    emit .sequenceEnd
  | .blockEntry =>
    skip
    let u ← peek
    match u.kind with
    | .blockEntry | .blockEnd =>
      goto .blockSequenceEntry
      emitEmpty
    | _ =>
      pushState .blockSequenceEntry
      node true false
  | _ => fail t.mark "while parsing a block collection, did not find expected '-' indicator"

/-- An entry of a sequence of `-` entries inside a mapping, or its end. -/
def indentlessSequenceEntry : Parse Event := do
  let t ← peek
  match t.kind with
  | .blockEntry =>
    skip
    let u ← peek
    match u.kind with
    | .blockEntry | .key | .value | .blockEnd =>
      goto .indentlessSequenceEntry
      emitEmpty
    | _ =>
      pushState .indentlessSequenceEntry
      node true false
  | _ =>
    popState
    emit .sequenceEnd

/-- An entry of a flow sequence, or its end; a `? key : value` pair is a one-pair
mapping. -/
def flowSequenceEntry (first : Bool) : Parse Event := do
  if first then skip
  let t ← peek
  match t.kind with
  | .flowSequenceEnd =>
    popState
    skip
    emit .sequenceEnd
  | _ =>
    if !first then
      match t.kind with
      | .flowEntry => skip
      | _ => fail t.mark "while parsing a flow sequence, expected ',' or ']'"
    let u ← peek
    match u.kind with
    | .flowSequenceEnd =>
      popState
      skip
      emit .sequenceEnd
    | .key =>
      goto .flowSequenceEntryMappingKey
      skip
      emit (.mappingStart none none)
    | _ =>
      pushState .flowSequenceEntry
      node false false

/-- The key of a one-pair mapping inside a flow sequence. -/
def flowSequenceEntryMappingKey : Parse Event := do
  let t ← peek
  match t.kind with
  | .value | .flowEntry | .flowSequenceEnd =>
    skip
    goto .flowSequenceEntryMappingValue
    emitEmpty
  | _ =>
    pushState .flowSequenceEntryMappingValue
    node false false

/-- The value of a one-pair mapping inside a flow sequence. -/
def flowSequenceEntryMappingValue : Parse Event := do
  let t ← peek
  match t.kind with
  | .value =>
    skip
    let u ← peek
    match u.kind with
    | .flowEntry | .flowSequenceEnd =>
      goto .flowSequenceEntryMappingEnd
      emitEmpty
    | _ =>
      pushState .flowSequenceEntryMappingEnd
      node false false
  | _ =>
    goto .flowSequenceEntryMappingEnd
    emitEmpty

/-- A key of a flow mapping, or its end. -/
def flowMappingKey (first : Bool) : Parse Event := do
  if first then skip
  let t ← peek
  match t.kind with
  | .flowMappingEnd =>
    popState
    skip
    emit .mappingEnd
  | _ =>
    if !first then
      match t.kind with
      | .flowEntry => skip
      | _ => fail t.mark "while parsing a flow mapping, did not find expected ',' or '\x7d'"
    let u ← peek
    match u.kind with
    | .key =>
      skip
      let v ← peek
      match v.kind with
      | .value | .flowEntry | .flowMappingEnd =>
        goto .flowMappingValue
        emitEmpty
      | _ =>
        pushState .flowMappingValue
        node false false
    | .value =>
      goto .flowMappingValue
      emitEmpty
    | .flowMappingEnd =>
      -- after a trailing comma the end is placed at the comma
      modify fun p => { p with mark := t.mark }
      popState
      skip
      emit .mappingEnd
    | _ =>
      pushState .flowMappingEmptyValue
      node false false

/-- A value of a flow mapping; absent, it is empty. -/
def flowMappingValue (empty : Bool) : Parse Event := do
  if empty then
    goto .flowMappingKey
    emitEmpty
  else
    let t ← peek
    match t.kind with
    | .value =>
      skip
      let u ← peek
      match u.kind with
      | .flowEntry | .flowMappingEnd =>
        goto .flowMappingKey
        emitEmpty
      | _ =>
        pushState .flowMappingKey
        node false false
    | _ =>
      goto .flowMappingKey
      emitEmpty

/-- The next event. -/
def step : Parse Event := do
  let p ← get
  match p.state with
  | .streamStart =>
    let t ← peek
    match t.kind with
    | .streamStart =>
      goto .implicitDocumentStart
      skip
      emit .streamStart
    | _ => fail t.mark "did not find expected <stream-start>"
  | .implicitDocumentStart => documentStart true (p.tokens.size - p.pos + 1)
  | .documentStart => documentStart false (p.tokens.size - p.pos + 1)
  | .documentContent =>
    let t ← peek
    match t.kind with
    | .versionDirective _ _ | .tagDirective _ _ | .documentStart | .documentEnd | .streamEnd =>
      popState
      emitEmpty
    | _ => node true false
  | .documentEnd =>
    let t ← peek
    let explicitEnd := match t.kind with
      | .documentEnd => true
      | _ => false
    if explicitEnd then
      skip
      goto .implicitDocumentStart
    else
      match t.kind with
      | .versionDirective _ _ | .tagDirective _ _ =>
        fail t.mark "missing explicit document end marker before directive"
      | _ => goto .documentStart
    emit .documentEnd
  | .blockNode => node true false
  | .blockMappingFirstKey => blockMappingKey true
  | .blockMappingKey => blockMappingKey false
  | .blockMappingValue => blockMappingValue
  | .blockSequenceFirstEntry => blockSequenceEntry true
  | .blockSequenceEntry => blockSequenceEntry false
  | .indentlessSequenceEntry => indentlessSequenceEntry
  | .flowSequenceFirstEntry => flowSequenceEntry true
  | .flowSequenceEntry => flowSequenceEntry false
  | .flowSequenceEntryMappingKey => flowSequenceEntryMappingKey
  | .flowSequenceEntryMappingValue => flowSequenceEntryMappingValue
  | .flowSequenceEntryMappingEnd =>
    goto .flowSequenceEntry
    emit .mappingEnd
  | .flowMappingFirstKey => flowMappingKey true
  | .flowMappingKey => flowMappingKey false
  | .flowMappingValue => flowMappingValue false
  | .flowMappingEmptyValue => flowMappingValue true
  | .finished => emit .streamEnd

/-- Events until the stream ends, each with its position. -/
def run : Nat → Parse (List (Event × Mark))
  | 0 => pure []
  | n + 1 => do
    let e ← step
    let p ← get
    if p.state == .finished then return [(e, p.mark)]
    return (e, p.mark) :: (← run n)

end Parser

/-- The events of a YAML text under a dialect, each placed at the token it was read
from, or the first syntax error. -/
def Event.parse (d : Dialect) (text : String) : Except SyntaxError (List (Event × Mark)) :=
  let (tokens, err) := Token.scan d text
  let p : Parser :=
    { dialect := d
      tokens := tokens
      pos := 0
      scanError := err
      state := .streamStart
      states := []
      anchors := []
      tagDirectives := []
      mark := Mark.start }
  (Parser.run (4 * tokens.size + 8)).run' p

end Yaml

end Throttle
