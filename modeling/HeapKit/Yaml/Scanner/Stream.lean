import HeapKit.Yaml.Scanner.Scalar
import HeapKit.Yaml.Scanner.Property

/-!
# The token stream

Each call of `fetchNextToken` skips blanks, comments and line breaks, closes the
block collections the new column leaves, and queues the token that starts at
the next character, together with any tokens that a recorded simple key or a
deeper indentation calls for.

The parser takes tokens from the head of the queue. It may take one only once
the queue holds three tokens and no pending simple key could still claim the
head's place: until then more tokens are fetched. So the scanner runs a little
ahead of the parser, and an error in what it reads ahead is reported before the
parser sees the tokens before it.
-/

namespace HeapKit.Yaml

/-- Queues a token that spans the next `width` characters. -/
def queueIndicator (kind : TokenKind) (width : Nat) : ScanM Unit := do
  let start := (← get).mark
  skipWhile (fun _ => true) width
  appendToken { kind, start, stop := (← get).mark }

/-- Starts the stream: no indentation, one flow level without a key. -/
def fetchStreamStart : ScanM Unit := do
  modify fun scanner =>
    { scanner with indent := -1, keys := #[{}], keysByToken := [], keyAllowed := true, started := true }
  let mark := (← get).mark
  appendToken { kind := .streamStart, start := mark, stop := mark }

/-- Ends the stream: the last line is ended, every block closed, every key dropped. -/
def fetchStreamEnd : ScanM Unit := do
  modify fun scanner =>
    if scanner.mark.column != 0 then
      { scanner with mark := { scanner.mark with column := 0, line := scanner.mark.line + 1 } }
    else scanner
  unrollTo (-1) (← get).mark
  removeSimpleKey
  modify fun scanner => { scanner with keyAllowed := false }
  let mark := (← get).mark
  appendToken { kind := .streamEnd, start := mark, stop := mark }

/-- Queues a directive, closing every block first. -/
def fetchDirective : ScanM Unit := do
  unrollTo (-1) (← get).mark
  removeSimpleKey
  modify fun scanner => { scanner with keyAllowed := false }
  appendToken (← scanDirective)

/-- Queues `---` or `...`, closing every block first. -/
def fetchDocumentIndicator (kind : TokenKind) : ScanM Unit := do
  unrollTo (-1) (← get).mark
  removeSimpleKey
  modify fun scanner => { scanner with keyAllowed := false }
  queueIndicator kind 3

/-- Queues `[` or `{`, which may start a simple key and open a flow level. -/
def fetchFlowCollectionStart (kind : TokenKind) : ScanM Unit := do
  saveSimpleKey
  increaseFlowLevel
  modify fun scanner => { scanner with keyAllowed := true }
  queueIndicator kind 1

/-- Queues `]` or `}`, closing a flow level. -/
def fetchFlowCollectionEnd (kind : TokenKind) : ScanM Unit := do
  removeSimpleKey
  decreaseFlowLevel
  modify fun scanner => { scanner with keyAllowed := false }
  queueIndicator kind 1

/-- Queues `,` in a flow collection. -/
def fetchFlowEntry : ScanM Unit := do
  removeSimpleKey
  modify fun scanner => { scanner with keyAllowed := true }
  queueIndicator .flowEntry 1

/-- Queues `-` before a block sequence entry, opening the sequence if it is
deeper than the current block. -/
def fetchBlockEntry : ScanM Unit := do
  let scanner ← get
  if scanner.flowLevel == 0 then
    if !scanner.keyAllowed then
      scanError scanner.mark "block sequence entries are not allowed in this context"
    rollIndent scanner.mark.column none .blockSequenceStart scanner.mark
  removeSimpleKey
  modify fun scanner => { scanner with keyAllowed := true }
  queueIndicator .blockEntry 1

/-- Queues `?` before a complex key. -/
def fetchKey : ScanM Unit := do
  let scanner ← get
  if scanner.flowLevel == 0 then
    if !scanner.keyAllowed then
      scanError scanner.mark "mapping keys are not allowed in this context"
    rollIndent scanner.mark.column none .blockMappingStart scanner.mark
  removeSimpleKey
  modify fun scanner => { scanner with keyAllowed := scanner.flowLevel == 0 }
  queueIndicator .key 1

/-- Queues `:`. After a simple key, a KEY token goes before the key, and in block
context the start of a mapping before that when the key opens one. -/
def fetchValue : ScanM Unit := do
  let scanner ← get
  let top := scanner.keys.size - 1
  let key := scanner.keys.getD top {}
  if ← keyStillValid top then
    insertToken key.tokenNumber { kind := .key, start := key.mark, stop := key.mark }
    rollIndent key.mark.column (some key.tokenNumber) .blockMappingStart key.mark
    modify fun scanner =>
      { scanner with keys := scanner.keys.set! top { key with possible := false },
                     keyAllowed := false }
    forgetKeyOfToken key.tokenNumber
  else
    let scanner ← get
    if scanner.flowLevel == 0 then
      if !scanner.keyAllowed then
        scanError scanner.mark "mapping values are not allowed in this context"
      rollIndent scanner.mark.column none .blockMappingStart scanner.mark
    modify fun scanner => { scanner with keyAllowed := scanner.flowLevel == 0 }
  queueIndicator .value 1

/-- Queues a token that may start a simple key and is read by `scan`. -/
def fetchKeyCandidate (scan : ScanM Token) : ScanM Unit := do
  saveSimpleKey
  modify fun scanner => { scanner with keyAllowed := false }
  appendToken (← scan)

/-- Queues a block scalar, after which a simple key may start. -/
def fetchBlockScalar (literal : Bool) : ScanM Unit := do
  removeSimpleKey
  modify fun scanner => { scanner with keyAllowed := true }
  appendToken (← scanBlockScalar literal)

/-- Whether a plain scalar may start at `c`, followed by `next`. -/
def startsPlain (flow : Bool) (c next : Char) : Bool :=
  !(isBlankOrEnd c || "-?:,[]\x7b\x7d#&*!|>'\"%@`".contains c) ||
  (c == '-' && !isBlank next) ||
  (!flow && (c == '?' || c == ':') && !isBlankOrEnd next)

/-- Skips blanks, comments and line breaks up to the next token. Tabs count as
blanks only in flow context or where no simple key may start; a new line in
block context allows a simple key again. -/
def scanToNextToken : Nat → ScanM Unit
  | 0 => pure ()
  | fuel + 1 => do
    let scanner ← get
    if scanner.mark.column == 0 && scanner.ahead 0 == byteOrderMark then skip
    let scanner ← get
    let tabsBlank := scanner.flowLevel > 0 || !scanner.keyAllowed
    skipWhile (fun c => c == ' ' || (tabsBlank && c == '\t')) (← stepBound)
    if (← current) == '#' then skipWhile (fun c => !isBreakOrEnd c) (← stepBound)
    if isBreak (← current) then
      skipLine
      if (← get).flowLevel == 0 then modify fun scanner => { scanner with keyAllowed := true }
      scanToNextToken fuel

/-- Queues the next token. -/
def fetchNextToken : ScanM Unit := do
  ensure 1
  if !(← get).started then
    fetchStreamStart
    return
  let scanStart := (← get).mark
  scanToNextToken (← stepBound)
  unrollTo (← get).mark.column scanStart
  ensure 4
  let scanner ← get
  let c := scanner.ahead 0
  let next := scanner.ahead 1
  let flow := scanner.flowLevel > 0
  let firstColumn := scanner.mark.column == 0
  if c == endOfInput then fetchStreamEnd
  else if firstColumn && c == '%' then fetchDirective
  else if firstColumn && c == '-' && next == '-' && scanner.ahead 2 == '-' &&
      isBlankOrEnd (scanner.ahead 3) then fetchDocumentIndicator .documentStart
  else if firstColumn && c == '.' && next == '.' && scanner.ahead 2 == '.' &&
      isBlankOrEnd (scanner.ahead 3) then fetchDocumentIndicator .documentEnd
  else if c == '[' then fetchFlowCollectionStart .flowSequenceStart
  else if c == '{' then fetchFlowCollectionStart .flowMappingStart
  else if c == ']' then fetchFlowCollectionEnd .flowSequenceEnd
  else if c == '}' then fetchFlowCollectionEnd .flowMappingEnd
  else if c == ',' then fetchFlowEntry
  else if c == '-' && isBlankOrEnd next then fetchBlockEntry
  else if c == '?' && (flow || isBlankOrEnd next) then fetchKey
  else if c == ':' && (flow || isBlankOrEnd next) then fetchValue
  else if c == '*' then fetchKeyCandidate (scanAnchor true)
  else if c == '&' then fetchKeyCandidate (scanAnchor false)
  else if c == '!' then fetchKeyCandidate scanTag
  else if c == '|' && !flow then fetchBlockScalar true
  else if c == '>' && !flow then fetchBlockScalar false
  else if c == '\'' then fetchKeyCandidate (scanQuotedScalar true)
  else if c == '"' then fetchKeyCandidate (scanQuotedScalar false)
  else if startsPlain flow c next then fetchKeyCandidate scanPlainScalar
  else scanError scanner.mark "found character that cannot start any token"

/-- Fetches tokens until the head of the queue may be handed out: three tokens
are queued and no simple key that is still possible starts at the head. -/
def fetchMoreTokens : Nat → ScanM Unit
  | 0 => throw (.plain "token stream does not advance")
  | fuel + 1 => do
    let scanner ← get
    let needMore ←
      if scanner.queue.length ≥ 3 then
        match keyOfToken? scanner scanner.taken with
        | none => pure false
        | some position => keyStillValid position
      else pure true
    if needMore then
      fetchNextToken
      fetchMoreTokens fuel
    else modify fun scanner => { scanner with ready := true }

/-- The token at the head of the queue, fetching as needed. -/
def peekToken : ScanM Token := do
  if !(← get).ready then
    let scanner ← get
    fetchMoreTokens (4 * scanner.input.size + 64)
  match (← get).queue with
  | token :: _ => pure token
  | [] => throw (.plain "token stream does not advance")

/-- Takes the token at the head of the queue. -/
def skipToken : ScanM Unit :=
  modify fun scanner =>
    match scanner.queue with
    | token :: rest =>
      { scanner with queue := rest, taken := scanner.taken + 1, ready := false,
                     finished := token.kind == .streamEnd }
    | [] => scanner

end HeapKit.Yaml
