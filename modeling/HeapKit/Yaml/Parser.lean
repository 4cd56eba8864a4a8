import HeapKit.Yaml.Scanner.Stream

/-!
# YAML events

The parser turns tokens into events: the stream and its documents start and
end, collections start and end, and scalars and aliases stand alone. It is a
state machine whose states say what the grammar expects next (a block mapping
key, a flow sequence entry, ...), with a stack of states to return to once a
node is complete and a stack of the marks where open collections began.

A missing node, as in a key without a value, is an empty plain scalar. Tags are
resolved against the `%TAG` directives of the document and the two standard
handles: `!` stands for itself and `!!` for `tag:yaml.org,2002:`.
-/

namespace HeapKit.Yaml

/-- The kinds of events, with what each one carries. Anchors and tags are empty
when a node has none; a tag is given in full. -/
inductive EventKind where
  | streamStart
  | streamEnd
  | documentStart
  | documentEnd
  | alias (name : String)
  | scalar (anchor tag text : String) (style : ScalarStyle)
  | sequenceStart (anchor tag : String) (flow : Bool)
  | sequenceEnd
  | mappingStart (anchor tag : String) (flow : Bool)
  | mappingEnd
  deriving Repr, Inhabited, DecidableEq

/-- An event and the marks where it starts and stops. -/
structure Event where
  kind : EventKind
  start : Mark
  stop : Mark
  deriving Repr, Inhabited

/-- What the parser expects next. -/
inductive ParseState where
  | streamStart
  | implicitDocumentStart
  | documentStart
  | documentContent
  | documentEnd
  | blockNode
  | blockNodeOrIndentlessSequence
  | flowNode
  | blockSequenceFirstEntry
  | blockSequenceEntry
  | indentlessSequenceEntry
  | blockMappingFirstKey
  | blockMappingKey
  | blockMappingValue
  | flowSequenceFirstEntry
  | flowSequenceEntry
  | flowSequenceEntryMappingKey
  | flowSequenceEntryMappingValue
  | flowSequenceEntryMappingEnd
  | flowMappingFirstKey
  | flowMappingKey
  | flowMappingValue
  | flowMappingEmptyValue
  | finished
  deriving Repr, Inhabited, DecidableEq

/-- The parser: its scanner, state, the states to return to, the marks where
open collections began, and the tag handles in force. -/
structure Parser where
  scanner : Scanner
  state : ParseState := .streamStart
  states : List ParseState := []
  marks : List Mark := []
  tagHandles : List (String × String) := []
  deriving Repr, Inhabited

/-- Parsing steps: they change the parser or stop with an error. -/
abbrev ParseM := StateT Parser (Except YamlError)

namespace Parser

/-- A parser at the start of a text. -/
def ofString (text : String) : Parser := { scanner := Scanner.ofString text }

/-- A parser at the start of a stream of characters of which a reader delivers
only `readable` before failing with `problem`, if it has one. -/
def ofChars (chars : List Char) (readable : Nat) (problem : Option String) : Parser :=
  { scanner := { input := chars.toArray, readable, readProblem := problem } }

end Parser

/-- Runs a scanning step on the parser's scanner. -/
def onScanner {α : Type} (step : ScanM α) : ParseM α := do
  let parser ← get
  match step.run parser.scanner with
  | .ok (value, scanner) =>
    set { parser with scanner }
    pure value
  | .error error => throw error

/-- The next token. -/
def nextToken : ParseM Token := onScanner peekToken

/-- Takes the next token. -/
def takeToken : ParseM Unit := onScanner skipToken

/-- Stops with a parser error at `problemAt`, found while reading what started at
`context`. -/
def parseError {α : Type} (context problemAt : Mark) (problem : String) : ParseM α :=
  throw (.located false context problemAt problem)

/-- Stops with a parser error at `problemAt`, with no context. -/
def parseProblem {α : Type} (problemAt : Mark) (problem : String) : ParseM α :=
  throw (.located false {} problemAt problem)

/-- Returns to the state on top of the stack. -/
def popState : ParseM Unit :=
  modify fun parser =>
    match parser.states with
    | state :: rest => { parser with state, states := rest }
    | [] => { parser with state := .finished }

/-- Saves a state to return to. -/
def pushState (state : ParseState) : ParseM Unit :=
  modify fun parser => { parser with states := state :: parser.states }

/-- Moves to a state. -/
def goTo (state : ParseState) : ParseM Unit := modify fun parser => { parser with state }

/-- Records where a collection began. -/
def pushMark (mark : Mark) : ParseM Unit :=
  modify fun parser => { parser with marks := mark :: parser.marks }

/-- Forgets where the innermost collection began, returning it. -/
def popMark : ParseM Mark := do
  let parser ← get
  match parser.marks with
  | mark :: rest =>
    set { parser with marks := rest }
    pure mark
  | [] => pure {}

/-- An empty plain scalar at a mark. -/
def emptyScalar (mark : Mark) : Event := { kind := .scalar "" "" "" .plain, start := mark, stop := mark }

/-! ### Documents -/

/-- The standard tag handles. -/
def standardHandles : List (String × String) := [("!", "!"), ("!!", "tag:yaml.org,2002:")]

/-- Reads the directives before a document and puts the standard handles after
them. A second `%YAML`, a version other than 1.1, or a handle declared twice is
an error. -/
def readDirectives (seenVersion : Bool) : Nat → ParseM Unit
  | 0 => pure ()
  | fuel + 1 => do
    let token ← nextToken
    match token.kind with
    | .versionDirective major minor =>
      if seenVersion then parseProblem token.start "found duplicate %YAML directive"
      if major != 1 || minor != 1 then parseProblem token.start "found incompatible YAML document"
      takeToken
      readDirectives true fuel
    | .tagDirective handle expansion =>
      if (← get).tagHandles.any (·.1 == handle) then
        parseProblem token.start "found duplicate %TAG directive"
      modify fun parser => { parser with tagHandles := parser.tagHandles ++ [(handle, expansion)] }
      takeToken
      readDirectives seenVersion fuel
    | _ =>
      modify fun parser =>
        { parser with tagHandles := parser.tagHandles ++
            standardHandles.filter fun (handle, _) => !parser.tagHandles.any (·.1 == handle) }

/-- A bound on the number of directives. -/
def directiveBound : ParseM Nat := do
  let parser ← get
  return parser.scanner.input.size + 2

/-- The start of the stream. -/
def parseStreamStart : ParseM Event := do
  let token ← nextToken
  if token.kind != .streamStart then parseProblem token.start "did not find expected <stream-start>"
  goTo .implicitDocumentStart
  takeToken
  return { kind := .streamStart, start := token.start, stop := token.stop }

/-- Takes any `...` markers before a document, returning the token after them. -/
def skipDocumentEnds : Nat → ParseM Token
  | 0 => nextToken
  | fuel + 1 => do
    let token ← nextToken
    if token.kind == .documentEnd then
      takeToken
      skipDocumentEnds fuel
    else pure token

/-- The start of a document, implicit only for the first one, or the end of the stream. -/
def parseDocumentStart (implicit : Bool) : ParseM Event := do
  let token ← if implicit then nextToken else skipDocumentEnds (← directiveBound)
  let directive := match token.kind with
    | .versionDirective _ _ | .tagDirective _ _ => true
    | _ => false
  if implicit && !directive && token.kind != .documentStart && token.kind != .streamEnd then
    readDirectives false (← directiveBound)
    pushState .documentEnd
    goTo .blockNode
    return { kind := .documentStart, start := token.start, stop := token.stop }
  else if token.kind != .streamEnd then
    let start := token.start
    readDirectives false (← directiveBound)
    let token ← nextToken
    if token.kind != .documentStart then
      parseProblem token.start "did not find expected <document start>"
    pushState .documentEnd
    goTo .documentContent
    takeToken
    return { kind := .documentStart, start, stop := token.stop }
  else
    goTo .finished
    takeToken
    return { kind := .streamEnd, start := token.start, stop := token.stop }

/-- The end of a document: explicit with `...`, else implicit. -/
def parseDocumentEnd : ParseM Event := do
  let token ← nextToken
  let stop ← if token.kind == .documentEnd then do
      takeToken
      pure token.stop
    else pure token.start
  modify fun parser => { parser with tagHandles := [] }
  goTo .documentStart
  return { kind := .documentEnd, start := token.start, stop }

/-! ### Nodes -/

/-- The full tag of a handle and suffix. An unknown handle is an error. -/
def resolveTag (nodeStart tagStart : Mark) (handle suffix : String) : ParseM String := do
  if handle.isEmpty then return suffix
  match (← get).tagHandles.find? (·.1 == handle) with
  | some (_, expansion) => return expansion ++ suffix
  | none => parseError nodeStart tagStart "found undefined tag handle"

/-- A node: an alias, or a scalar or collection with an optional anchor and tag
before it. In block context a `-` may start a sequence without indentation. -/
def parseNode (block indentlessSequence : Bool) : ParseM Event := do
  let token ← nextToken
  if let .alias name := token.kind then
    popState
    takeToken
    return { kind := .alias name, start := token.start, stop := token.stop }
  let start := token.start
  let mut stop := token.start
  let mut anchor := ""
  let mut tagParts : Option (String × String × Mark) := none
  let mut token := token
  if let .anchor name := token.kind then
    anchor := name
    stop := token.stop
    takeToken
    token ← nextToken
    if let .tag handle suffix := token.kind then
      tagParts := some (handle, suffix, token.start)
      stop := token.stop
      takeToken
      token ← nextToken
  else if let .tag handle suffix := token.kind then
    tagParts := some (handle, suffix, token.start)
    stop := token.stop
    takeToken
    token ← nextToken
    if let .anchor name := token.kind then
      anchor := name
      stop := token.stop
      takeToken
      token ← nextToken
  let tag ← match tagParts with
    | some (handle, suffix, tagStart) => resolveTag start tagStart handle suffix
    | none => pure ""
  if indentlessSequence && token.kind == .blockEntry then
    goTo .indentlessSequenceEntry
    return { kind := .sequenceStart anchor tag false, start, stop := token.stop }
  match token.kind with
  | .scalar text style =>
    popState
    takeToken
    return { kind := .scalar anchor tag text style, start, stop := token.stop }
  | .flowSequenceStart =>
    goTo .flowSequenceFirstEntry
    return { kind := .sequenceStart anchor tag true, start, stop := token.stop }
  | .flowMappingStart =>
    goTo .flowMappingFirstKey
    return { kind := .mappingStart anchor tag true, start, stop := token.stop }
  | .blockSequenceStart =>
    if block then
      goTo .blockSequenceFirstEntry
      return { kind := .sequenceStart anchor tag false, start, stop := token.stop }
  | .blockMappingStart =>
    if block then
      goTo .blockMappingFirstKey
      return { kind := .mappingStart anchor tag false, start, stop := token.stop }
  | _ => pure ()
  if !anchor.isEmpty || !tag.isEmpty then
    popState
    return { kind := .scalar anchor tag "" .plain, start, stop }
  parseError start token.start "did not find expected node content"

/-! ### Block collections -/

/-- An entry of a block sequence, or its end. -/
def parseBlockSequenceEntry (first : Bool) : ParseM Event := do
  if first then
    pushMark (← nextToken).start
    takeToken
  let token ← nextToken
  if token.kind == .blockEntry then
    takeToken
    let next ← nextToken
    if next.kind != .blockEntry && next.kind != .blockEnd then
      pushState .blockSequenceEntry
      parseNode true false
    else
      goTo .blockSequenceEntry
      return emptyScalar token.stop
  else if token.kind == .blockEnd then
    popState
    let _ ← popMark
    takeToken
    return { kind := .sequenceEnd, start := token.start, stop := token.stop }
  else
    parseError (← popMark) token.start "did not find expected '-' indicator"

/-- An entry of a sequence written without indentation under a mapping key. -/
def parseIndentlessSequenceEntry : ParseM Event := do
  let token ← nextToken
  if token.kind == .blockEntry then
    takeToken
    let next ← nextToken
    if next.kind != .blockEntry && next.kind != .key && next.kind != .value &&
        next.kind != .blockEnd then
      pushState .indentlessSequenceEntry
      parseNode true false
    else
      goTo .indentlessSequenceEntry
      return emptyScalar token.stop
  else
    popState
    return { kind := .sequenceEnd, start := token.start, stop := token.start }

/-- A key of a block mapping, or its end. -/
def parseBlockMappingKey (first : Bool) : ParseM Event := do
  if first then
    pushMark (← nextToken).start
    takeToken
  let token ← nextToken
  if token.kind == .key then
    takeToken
    let next ← nextToken
    if next.kind != .key && next.kind != .value && next.kind != .blockEnd then
      pushState .blockMappingValue
      parseNode true true
    else
      goTo .blockMappingValue
      return emptyScalar token.stop
  else if token.kind == .blockEnd then
    popState
    let _ ← popMark
    takeToken
    return { kind := .mappingEnd, start := token.start, stop := token.stop }
  else
    parseError (← popMark) token.start "did not find expected key"

/-- A value of a block mapping, empty when there is none. -/
def parseBlockMappingValue : ParseM Event := do
  let token ← nextToken
  if token.kind == .value then
    takeToken
    let next ← nextToken
    if next.kind != .key && next.kind != .value && next.kind != .blockEnd then
      pushState .blockMappingKey
      parseNode true true
    else
      goTo .blockMappingKey
      return emptyScalar token.stop
  else
    goTo .blockMappingKey
    return emptyScalar token.start

/-! ### Flow collections -/

/-- An entry of a flow sequence, or its end. A `?` or a simple key starts a
single-pair mapping inside the sequence. -/
def parseFlowSequenceEntry (first : Bool) : ParseM Event := do
  if first then
    pushMark (← nextToken).start
    takeToken
  let mut token ← nextToken
  if token.kind != .flowSequenceEnd then
    if !first then
      if token.kind == .flowEntry then
        takeToken
        token ← nextToken
      else
        parseError (← popMark) token.start "did not find expected ',' or ']'"
    if token.kind == .key then
      goTo .flowSequenceEntryMappingKey
      takeToken
      return { kind := .mappingStart "" "" true, start := token.start, stop := token.stop }
    else if token.kind != .flowSequenceEnd then
      pushState .flowSequenceEntry
      return ← parseNode false false
  popState
  let _ ← popMark
  takeToken
  return { kind := .sequenceEnd, start := token.start, stop := token.stop }

/-- The key of a single-pair mapping inside a flow sequence. -/
def parseFlowSequenceEntryMappingKey : ParseM Event := do
  let token ← nextToken
  if token.kind != .value && token.kind != .flowEntry && token.kind != .flowSequenceEnd then
    pushState .flowSequenceEntryMappingValue
    parseNode false false
  else
    takeToken
    goTo .flowSequenceEntryMappingValue
    return emptyScalar token.stop

/-- The value of a single-pair mapping inside a flow sequence. -/
def parseFlowSequenceEntryMappingValue : ParseM Event := do
  let token ← nextToken
  if token.kind == .value then
    takeToken
    let next ← nextToken
    if next.kind != .flowEntry && next.kind != .flowSequenceEnd then
      pushState .flowSequenceEntryMappingEnd
      return ← parseNode false false
  goTo .flowSequenceEntryMappingEnd
  return emptyScalar token.start

/-- The end of a single-pair mapping inside a flow sequence. -/
def parseFlowSequenceEntryMappingEnd : ParseM Event := do
  let token ← nextToken
  goTo .flowSequenceEntry
  return { kind := .mappingEnd, start := token.start, stop := token.start }

/-- A key of a flow mapping, or its end. -/
def parseFlowMappingKey (first : Bool) : ParseM Event := do
  if first then
    pushMark (← nextToken).start
    takeToken
  let mut token ← nextToken
  if token.kind != .flowMappingEnd then
    if !first then
      if token.kind == .flowEntry then
        takeToken
        token ← nextToken
      else
        parseError (← popMark) token.start "did not find expected ',' or '\x7d'"
    if token.kind == .key then
      takeToken
      let next ← nextToken
      if next.kind != .value && next.kind != .flowEntry && next.kind != .flowMappingEnd then
        pushState .flowMappingValue
        return ← parseNode false false
      else
        goTo .flowMappingValue
        return emptyScalar next.start
    else if token.kind != .flowMappingEnd then
      pushState .flowMappingEmptyValue
      return ← parseNode false false
  popState
  let _ ← popMark
  takeToken
  return { kind := .mappingEnd, start := token.start, stop := token.stop }

/-- A value of a flow mapping; empty after a key written without `:`. -/
def parseFlowMappingValue (empty : Bool) : ParseM Event := do
  let token ← nextToken
  if empty then
    goTo .flowMappingKey
    return emptyScalar token.start
  if token.kind == .value then
    takeToken
    let next ← nextToken
    if next.kind != .flowEntry && next.kind != .flowMappingEnd then
      pushState .flowMappingKey
      return ← parseNode false false
    goTo .flowMappingKey
    return emptyScalar next.start
  goTo .flowMappingKey
  return emptyScalar token.start

/-- The content of an explicit document: empty when a marker follows at once. -/
def parseDocumentContent : ParseM Event := do
  let token ← nextToken
  match token.kind with
  | .versionDirective _ _ | .tagDirective _ _ | .documentStart | .documentEnd | .streamEnd =>
    popState
    return emptyScalar token.start
  | _ => parseNode true false

/-- The next event. After the end of the stream there are none. -/
def nextEvent : ParseM (Option Event) := do
  let parser ← get
  if parser.scanner.finished then return none
  match parser.state with
  | .streamStart => some <$> parseStreamStart
  | .implicitDocumentStart => some <$> parseDocumentStart true
  | .documentStart => some <$> parseDocumentStart false
  | .documentContent => some <$> parseDocumentContent
  | .documentEnd => some <$> parseDocumentEnd
  | .blockNode => some <$> parseNode true false
  | .blockNodeOrIndentlessSequence => some <$> parseNode true true
  | .flowNode => some <$> parseNode false false
  | .blockSequenceFirstEntry => some <$> parseBlockSequenceEntry true
  | .blockSequenceEntry => some <$> parseBlockSequenceEntry false
  | .indentlessSequenceEntry => some <$> parseIndentlessSequenceEntry
  | .blockMappingFirstKey => some <$> parseBlockMappingKey true
  | .blockMappingKey => some <$> parseBlockMappingKey false
  | .blockMappingValue => some <$> parseBlockMappingValue
  | .flowSequenceFirstEntry => some <$> parseFlowSequenceEntry true
  | .flowSequenceEntry => some <$> parseFlowSequenceEntry false
  | .flowSequenceEntryMappingKey => some <$> parseFlowSequenceEntryMappingKey
  | .flowSequenceEntryMappingValue => some <$> parseFlowSequenceEntryMappingValue
  | .flowSequenceEntryMappingEnd => some <$> parseFlowSequenceEntryMappingEnd
  | .flowMappingFirstKey => some <$> parseFlowMappingKey true
  | .flowMappingKey => some <$> parseFlowMappingKey false
  | .flowMappingValue => some <$> parseFlowMappingValue false
  | .flowMappingEmptyValue => some <$> parseFlowMappingValue true
  | .finished => pure none

end HeapKit.Yaml
