import HeapKit.Yaml.Token

/-!
# The YAML scanner's state

The scanner reads characters and queues tokens for the parser. Besides its
position it keeps the column of every enclosing block collection (the indent
stack), how deep it is inside flow collections, and for every flow level the
place where a simple key may have started: a scalar, alias or collection that
becomes a key once a `:` follows on the same line, within 1024 characters.

When that `:` arrives, a KEY token (and, in block context, the start of a block
mapping) is inserted into the queue before the key's first token, so the parser
may only take a token once no pending simple key could still claim its place.

Reading past the end of the input yields the character U+0000, which a stream
never holds otherwise.

The characters come from a reader that decodes the stream's bytes a block at a
time. When a block holds bytes that are not a character a stream may hold, the
characters before that block are all the scanner can have: it fails with the
reader's problem as soon as it needs one more, even if the bad bytes lie
further on. So a problem far enough behind the end of what is parsed goes
unnoticed.
-/

namespace HeapKit.Yaml

/-- A place where a simple key may start, on one flow level. -/
structure SimpleKey where
  possible : Bool := false
  required : Bool := false
  /-- The number of the key's first token, counted over the whole stream. -/
  tokenNumber : Nat := 0
  mark : Mark := {}
  deriving Repr, Inhabited

/-- The scanner: input, position, token queue, indentation and simple keys. -/
structure Scanner where
  input : Array Char
  position : Nat := 0
  mark : Mark := {}
  /-- Whether the STREAM-START token has been queued. -/
  started : Bool := false
  /-- Whether the parser has taken a STREAM-END token. -/
  finished : Bool := false
  flowLevel : Nat := 0
  /-- Tokens queued and not yet taken, the next one first. -/
  queue : List Token := []
  /-- How many tokens the parser has taken. -/
  taken : Nat := 0
  /-- Whether the head of the queue may be handed out without scanning more. -/
  ready : Bool := false
  indent : Int := -1
  indents : List Int := []
  keyAllowed : Bool := false
  /-- One simple key per flow level, the innermost last. -/
  keys : Array SimpleKey := #[]
  /-- Simple keys by the number of their first token, as positions in `keys`. -/
  keysByToken : List (Nat × Nat) := []
  /-- How many characters the reader can deliver, when it fails beyond them. -/
  readable : Nat := 0
  /-- The reader's problem past the readable characters, if it has one. -/
  readProblem : Option String := none
  deriving Repr, Inhabited

/-- Scanning steps: they change the scanner or stop with an error. -/
abbrev ScanM := StateT Scanner (Except YamlError)

/-! ### Characters -/

/-- The character standing for the end of the input. -/
def endOfInput : Char := Char.ofNat 0

/-- Spaces and tabs. -/
def isBlank (c : Char) : Bool := c == ' ' || c == '\t'

/-- Line breaks: carriage return, line feed, next line, line and paragraph separators. -/
def isBreak (c : Char) : Bool :=
  c == '\r' || c == '\n' || c.toNat == 0x85 || c.toNat == 0x2028 || c.toNat == 0x2029

/-- A line break or the end of the input. -/
def isBreakOrEnd (c : Char) : Bool := isBreak c || c == endOfInput

/-- A blank, a line break or the end of the input. -/
def isBlankOrEnd (c : Char) : Bool := isBlank c || isBreakOrEnd c

/-- Decimal digits. -/
def isDigit (c : Char) : Bool := '0' ≤ c && c ≤ '9'

/-- The characters of anchors, directive names and tag handles. -/
def isWordChar (c : Char) : Bool :=
  isDigit c || ('a' ≤ c && c ≤ 'z') || ('A' ≤ c && c ≤ 'Z') || c == '_' || c == '-'

/-- Hexadecimal digits. -/
def isHexDigit (c : Char) : Bool :=
  isDigit c || ('a' ≤ c && c ≤ 'f') || ('A' ≤ c && c ≤ 'F')

/-- The value of a hexadecimal digit. -/
def hexValue (c : Char) : Nat :=
  if isDigit c then c.toNat - '0'.toNat
  else if 'a' ≤ c && c ≤ 'f' then c.toNat - 'a'.toNat + 10
  else c.toNat - 'A'.toNat + 10

/-- The byte order mark. -/
def byteOrderMark : Char := Char.ofNat 0xFEFF

namespace Scanner

/-- A scanner at the start of a stream. -/
def ofString (text : String) : Scanner := { input := text.toList.toArray }

/-- The character `offset` places ahead, or the end marker. -/
def ahead (scanner : Scanner) (offset : Nat) : Char :=
  scanner.input.getD (scanner.position + offset) endOfInput

/-- The characters left to read, plus one: a bound on the steps of any loop
that reads at least one character per step. -/
def remaining (scanner : Scanner) : Nat := scanner.input.size - scanner.position + 2

end Scanner

/-! ### Moving through the input -/

/-- Asks the reader for the next `count` characters: fails with the reader's
problem when they reach past what it can deliver. -/
def ensure (count : Nat) : ScanM Unit := do
  let scanner ← get
  if let some problem := scanner.readProblem then
    if scanner.position + count > scanner.readable then throw (.plain problem)

/-- The current character. -/
def current : ScanM Char := do
  ensure 1
  return (← get).ahead 0

/-- The character `offset` places ahead. -/
def peekAhead (offset : Nat) : ScanM Char := do
  ensure (offset + 1)
  return (← get).ahead offset

/-- A bound on the steps of a loop that reads a character per step. -/
def stepBound : ScanM Nat := do return (← get).remaining

/-- Stops with a scanner error: a problem at the current mark, found while
reading what started at `context`. -/
def scanError {α : Type} (context : Mark) (problem : String) : ScanM α := do
  throw (.located true context (← get).mark problem)

/-- Moves past one character of a line. -/
def skip : ScanM Unit :=
  modify fun scanner =>
    { scanner with position := scanner.position + 1,
                   mark := { scanner.mark with index := scanner.mark.index + 1,
                                               column := scanner.mark.column + 1 } }

/-- Moves past a line break, if there is one. -/
def skipLine : ScanM Unit := do
  ensure 2
  modify fun scanner =>
    if scanner.ahead 0 == '\r' && scanner.ahead 1 == '\n' then
      { scanner with position := scanner.position + 2,
                     mark := ⟨scanner.mark.index + 2, scanner.mark.line + 1, 0⟩ }
    else if isBreak (scanner.ahead 0) then
      { scanner with position := scanner.position + 1,
                     mark := ⟨scanner.mark.index + 1, scanner.mark.line + 1, 0⟩ }
    else scanner

/-- Moves past one character and returns it. -/
def readChar : ScanM Char := do
  let c ← current
  skip
  return c

/-- Moves past a line break and returns it as written into a scalar: carriage
returns, line feeds and next-line characters become a line feed, and the line and
paragraph separators stay. Returns the empty string when there is no break. -/
def readBreak : ScanM String := do
  let c ← current
  if c == '\r' || c == '\n' || c.toNat == 0x85 then
    skipLine
    return "\n"
  else if c.toNat == 0x2028 || c.toNat == 0x2029 then
    skipLine
    return c.toString
  else return ""

/-- Moves past characters while they satisfy `test`. -/
def skipWhile (test : Char → Bool) : Nat → ScanM Unit
  | 0 => pure ()
  | fuel + 1 => do
    if test (← current) then
      skip
      skipWhile test fuel

/-- Reads characters while they satisfy `test`, appending them to `text`. -/
def readWhile (test : Char → Bool) (text : String) : Nat → ScanM String
  | 0 => pure text
  | fuel + 1 => do
    if test (← current) then
      let c ← readChar
      readWhile test (text.push c) fuel
    else pure text

/-! ### The token queue -/

/-- Appends a token to the queue. -/
def appendToken (token : Token) : ScanM Unit :=
  modify fun scanner => { scanner with queue := scanner.queue ++ [token] }

/-- Inserts a token into the queue before the token with the given stream number. -/
def insertToken (tokenNumber : Nat) (token : Token) : ScanM Unit :=
  modify fun scanner =>
    let place := tokenNumber - scanner.taken
    { scanner with queue := scanner.queue.take place ++ token :: scanner.queue.drop place }

/-- The number the next queued token will have. -/
def nextTokenNumber : ScanM Nat := do
  let scanner ← get
  return scanner.taken + scanner.queue.length

/-! ### Simple keys -/

/-- The position of the simple key recorded for a token number. -/
def keyOfToken? (scanner : Scanner) (tokenNumber : Nat) : Option Nat :=
  (scanner.keysByToken.find? (·.1 == tokenNumber)).map (·.2)

/-- Forgets the record of a token number. -/
def forgetKeyOfToken (tokenNumber : Nat) : ScanM Unit :=
  modify fun scanner =>
    { scanner with keysByToken := scanner.keysByToken.filter (·.1 != tokenNumber) }

/-- Whether the simple key at a position can still become a key. A key that went
past its line or its 1024 characters can not; if it was required, that is an error. -/
def keyStillValid (position : Nat) : ScanM Bool := do
  let scanner ← get
  let key := scanner.keys.getD position {}
  if !key.possible then return false
  if key.mark.line < scanner.mark.line || key.mark.index + 1024 < scanner.mark.index then
    if key.required then scanError key.mark "could not find expected ':'"
    set { scanner with keys := scanner.keys.set! position { key with possible := false } }
    return false
  return true

/-- Drops the simple key of the current flow level. A required key that is
dropped is an error: the `:` it needed never came. -/
def removeSimpleKey : ScanM Unit := do
  let scanner ← get
  let top := scanner.keys.size - 1
  let key := scanner.keys.getD top {}
  if key.possible then
    if key.required then scanError key.mark "could not find expected ':'"
    set { scanner with keys := scanner.keys.set! top { key with possible := false } }
    forgetKeyOfToken key.tokenNumber

/-- Records that the next token may start a simple key, when keys are allowed
here. In block context a key at the indentation column is required. -/
def saveSimpleKey : ScanM Unit := do
  let scanner ← get
  if scanner.keyAllowed then
    let required := scanner.flowLevel == 0 && scanner.indent == (scanner.mark.column : Int)
    let key : SimpleKey :=
      { possible := true, required, tokenNumber := ← nextTokenNumber, mark := scanner.mark }
    removeSimpleKey
    modify fun scanner =>
      let top := scanner.keys.size - 1
      { scanner with keys := scanner.keys.set! top key,
                     keysByToken := (key.tokenNumber, top) ::
                       scanner.keysByToken.filter (·.1 != key.tokenNumber) }

/-- The deepest nesting of flow collections and of block indentation. -/
def depthLimit : Nat := 10000

/-- Enters a flow collection: a new level with no simple key. -/
def increaseFlowLevel : ScanM Unit := do
  let scanner ← get
  let key : SimpleKey := { mark := scanner.mark }
  set { scanner with keys := scanner.keys.push key, flowLevel := scanner.flowLevel + 1 }
  if scanner.flowLevel + 1 > depthLimit then
    scanError key.mark ("exceeded max depth of " ++ toString depthLimit)

/-- Leaves a flow collection, forgetting the level's simple key. -/
def decreaseFlowLevel : ScanM Unit := do
  let scanner ← get
  if scanner.flowLevel > 0 then
    let key := scanner.keys.getD (scanner.keys.size - 1) {}
    set { scanner with flowLevel := scanner.flowLevel - 1, keys := scanner.keys.pop,
                       keysByToken := scanner.keysByToken.filter (·.1 != key.tokenNumber) }

/-! ### Indentation -/

/-- In block context, opens a collection at `column` when it is deeper than the
current indentation: the start token goes at the end of the queue, or before the
token with the given number. -/
def rollIndent (column : Nat) (tokenNumber : Option Nat) (kind : TokenKind) (mark : Mark) :
    ScanM Unit := do
  let scanner ← get
  if scanner.flowLevel == 0 && scanner.indent < column then
    set { scanner with indents := scanner.indent :: scanner.indents, indent := column }
    if scanner.indents.length + 1 > depthLimit then
      let key := scanner.keys.getD (scanner.keys.size - 1) {}
      scanError key.mark ("exceeded max depth of " ++ toString depthLimit)
    let token : Token := { kind, start := mark, stop := mark }
    match tokenNumber with
    | none => appendToken token
    | some number => insertToken number token

/-- In block context, closes every collection deeper than `column`, queueing a
BLOCK-END for each, marked just before where the scan for the next token began. -/
def unrollIndent (column : Int) (scanStart : Mark) : Nat → ScanM Unit
  | 0 => pure ()
  | fuel + 1 => do
    let scanner ← get
    if scanner.flowLevel == 0 && scanner.indent > column then
      let blockMark := { scanStart with index := scanStart.index - 1 }
      appendToken { kind := .blockEnd, start := blockMark, stop := blockMark }
      match scanner.indents with
      | outer :: rest => modify fun scanner => { scanner with indent := outer, indents := rest }
      | [] => modify fun scanner => { scanner with indent := -1 }
      unrollIndent column scanStart fuel

/-- Closes every block collection deeper than `column`. -/
def unrollTo (column : Int) (scanStart : Mark) : ScanM Unit := do
  unrollIndent column scanStart ((← get).indents.length + 1)

end HeapKit.Yaml
