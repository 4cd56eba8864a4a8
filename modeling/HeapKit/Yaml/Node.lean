import HeapKit.Yaml.Parser
import HeapKit.Yaml.Resolve
import HeapKit.Text.Utf8

/-!
# Documents as node trees

The events of a document's content build a tree of nodes. Every node records
the line where it starts, counted from one, and every node but an alias carries
a tag in short form. A node without a tag (or with the bare `!`) gets one: a
quoted or block scalar is a string (`!!str`), a plain `<<` is a merge key
(`!!merge`), another plain scalar the tag its text resolves to, a sequence
`!!seq` and a mapping `!!map`.

An anchor names the node it stands on; an alias refers to the node of the
newest anchor of its name, by that node's place in the document's table of
anchored nodes. A collection enters the table when it starts, so an alias
inside it may refer to it; the table holds the finished collection. An alias
to a name no anchor has given is an error.

Only the first document of a stream is read. A stream that is empty or holds
only comments holds no document.

The stream's bytes are read in blocks of 512. A block must decode as UTF-8
into characters a stream may hold: no control characters other than tab, line
feed and carriage return, and not the two noncharacters U+FFFE and U+FFFF. A
sequence cut by the end of a block is completed by the next one; one cut by the
end of the stream is a problem of its own. A block is read only when the
scanner needs characters beyond those before it, so a problem is reported only
if parsing the first document reaches its block. A byte order mark at the very
start is skipped.
-/

namespace HeapKit.Yaml

/-- A node of a document tree. -/
inductive Node where
  /-- A scalar: its tag, its text and its line. -/
  | scalar (tag value : String) (line : Nat)
  /-- A sequence: its tag, its items and its line. -/
  | sequence (tag : String) (items : List Node) (line : Nat)
  /-- A mapping: its tag, its entries in order and its line. -/
  | mapping (tag : String) (entries : List (Node × Node)) (line : Nat)
  /-- An alias: the anchor name, the place of the anchored node in the table,
  a number that tells this alias from all others, and its line. -/
  | alias (name : String) (target serial : Nat) (line : Nat)

instance : Inhabited Node := ⟨.scalar "" "" 0⟩

namespace Node

/-- The line a node starts on. -/
def line : Node → Nat
  | .scalar _ _ line | .sequence _ _ line | .mapping _ _ line | .alias _ _ _ line => line

end Node

/-- A document: its root node and the table of anchored nodes. -/
structure Document where
  root : Node
  anchors : Array Node

/-- The state of building a tree: the parser, an event looked at but not yet
taken, the table of anchored nodes, the names of anchors with their places
(newest first), and the number of aliases met. -/
structure Composer where
  parser : Parser
  pending : Option Event := none
  anchors : Array Node := #[]
  names : List (String × Nat) := []
  aliases : Nat := 0

/-- Building steps: they change the composer or stop with an error. -/
abbrev ComposeM := StateT Composer (Except YamlError)

/-- Runs a parsing step on the composer's parser. -/
def onParser {α : Type} (step : ParseM α) : ComposeM α := do
  let composer ← get
  match step.run composer.parser with
  | .ok (value, parser) =>
    set { composer with parser }
    pure value
  | .error error => throw error

/-- The next event, without taking it. -/
def peekEvent : ComposeM Event := do
  match (← get).pending with
  | some event => pure event
  | none =>
    match ← onParser nextEvent with
    | some event =>
      modify fun composer => { composer with pending := some event }
      pure event
    | none => throw (.plain "attempted to go past the end of stream; corrupted value?")

/-- Takes the event looked at. -/
def takeEvent : ComposeM Unit := modify fun composer => { composer with pending := none }

/-- Takes the next event, which must be of the kind `wanted` accepts. -/
def expectEvent (wanted : EventKind → Bool) (name : String) : ComposeM Unit := do
  let event ← peekEvent
  if event.kind == .streamEnd then
    throw (.plain "attempted to go past the end of stream; corrupted value?")
  if !wanted event.kind then throw (.plain ("expected " ++ name ++ " event"))
  takeEvent

/-- Enters a node in the table under an anchor name; returns its place. -/
def enterAnchor (anchor : String) (node : Node) : ComposeM (Option Nat) := do
  if anchor.isEmpty then return none
  let composer ← get
  let place := composer.anchors.size
  set { composer with anchors := composer.anchors.push node,
                      names := (anchor, place) :: composer.names }
  return some place

/-- Puts the finished node in the place its anchor took. -/
def finishAnchor (place : Option Nat) (node : Node) : ComposeM Unit :=
  match place with
  | none => pure ()
  | some place => modify fun composer => { composer with anchors := composer.anchors.set! place node }

/-- The tag of a node, explicit or given by default. -/
def nodeTag (explicit fallback : String) : String :=
  if explicit != "" && explicit != "!" then shortTag explicit else fallback

mutual

/-- Builds the node that starts with the next event. -/
def composeNode : Nat → ComposeM Node
  | 0 => throw (.plain "document nesting too deep")
  | fuel + 1 => do
    let event ← peekEvent
    let line := event.start.line + 1
    match event.kind with
    | .scalar anchor tag text style =>
      takeEvent
      let fallback :=
        if style != .plain then "!!str" else if text == "<<" then "!!merge" else plainTag text
      let node := Node.scalar (nodeTag tag fallback) text line
      let _ ← enterAnchor anchor node
      pure node
    | .alias name =>
      match (← get).names.lookup name with
      | none => throw (.plain ("unknown anchor '" ++ name ++ "' referenced"))
      | some target =>
        takeEvent
        let serial := (← get).aliases
        modify fun composer => { composer with aliases := serial + 1 }
        pure (.alias name target serial line)
    | .sequenceStart anchor tag _ =>
      let tag := nodeTag tag "!!seq"
      let place ← enterAnchor anchor (.sequence tag [] line)
      takeEvent
      let items ← composeItems fuel []
      expectEvent (· == .sequenceEnd) "SEQUENCE-END"
      let node := Node.sequence tag items line
      finishAnchor place node
      pure node
    | .mappingStart anchor tag _ =>
      let tag := nodeTag tag "!!map"
      let place ← enterAnchor anchor (.mapping tag [] line)
      takeEvent
      let entries ← composeEntries fuel []
      expectEvent (· == .mappingEnd) "MAPPING-END"
      let node := Node.mapping tag entries line
      finishAnchor place node
      pure node
    | _ => throw (.plain "attempted to parse unknown event")

/-- Builds the items of a sequence up to its end, given in reverse so far. -/
def composeItems : Nat → List Node → ComposeM (List Node)
  | 0, _ => throw (.plain "document nesting too deep")
  | fuel + 1, items => do
    if (← peekEvent).kind == .sequenceEnd then return items.reverse
    let item ← composeNode fuel
    composeItems fuel (item :: items)

/-- Builds the entries of a mapping up to its end, given in reverse so far. -/
def composeEntries : Nat → List (Node × Node) → ComposeM (List (Node × Node))
  | 0, _ => throw (.plain "document nesting too deep")
  | fuel + 1, entries => do
    if (← peekEvent).kind == .mappingEnd then return entries.reverse
    let key ← composeNode fuel
    let value ← composeNode fuel
    composeEntries fuel ((key, value) :: entries)

end

/-- Whether a stream may hold a character. -/
def isAllowedChar (c : Char) : Bool :=
  let code := c.toNat
  code == 0x09 || code == 0x0A || code == 0x0D || (0x20 ≤ code && code ≤ 0x7E) || code == 0x85 ||
    (0xA0 ≤ code && code ≤ 0xFFFD) || 0x10000 ≤ code

/-- Builds the first document of a stream. -/
def composeDocument (fuel : Nat) : ComposeM (Option Document) := do
  expectEvent (· == .streamStart) "STREAM-START"
  let event ← peekEvent
  match event.kind with
  | .streamEnd => return none
  | .documentStart =>
    takeEvent
    let root ← composeNode fuel
    expectEvent (· == .documentEnd) "DOCUMENT-END"
    return some { root, anchors := (← get).anchors }
  | _ => throw (.plain "attempted to parse unknown event")

/-- The width of a UTF-8 sequence by its leading byte, zero when no sequence
starts with it. -/
def leadWidth (byte : UInt8) : Nat :=
  if byte &&& 0x80 == 0 then 1
  else if byte &&& 0xE0 == 0xC0 then 2
  else if byte &&& 0xF0 == 0xE0 then 3
  else if byte &&& 0xF8 == 0xF0 then 4
  else 0

/-- The problem with a complete sequence of `width` bytes, if any: a trailing
byte that does not continue it, an encoding longer than needed, a surrogate or a
value beyond U+10FFFF, or a character a stream may not hold. -/
def sequenceProblem? (lead : UInt8) (trail : List UInt8) (width : Nat) : Option String :=
  if trail.any (fun byte => byte &&& 0xC0 != 0x80) then some "invalid trailing UTF-8 octet"
  else
    let leadBits := lead.toNat % Nat.pow 2 (if width == 1 then 7 else 7 - width)
    let value := trail.foldl (fun value byte => value * 64 + byte.toNat % 64) leadBits
    if !(width == 1 || (width == 2 && value ≥ 0x80) || (width == 3 && value ≥ 0x800) ||
        (width == 4 && value ≥ 0x10000)) then
      some "invalid length of a UTF-8 sequence"
    else if (0xD800 ≤ value && value ≤ 0xDFFF) || value > 0x10FFFF then
      some "invalid Unicode character"
    else if !isAllowedChar (Char.ofNat value) then some "control characters are not allowed"
    else none

/-- Decodes one block: the number of characters it holds, counted onto `count`,
and the bytes of a sequence its end cuts, or the first problem in it. -/
def decodeBlock (bytes : List UInt8) (count : Nat) : Except String (Nat × List UInt8) :=
  match bytes with
  | [] => .ok (count, [])
  | lead :: rest =>
    let width := leadWidth lead
    if width == 0 then .error "invalid leading UTF-8 octet"
    else if rest.length < width - 1 then .ok (count, bytes)
    else
      match sequenceProblem? lead (rest.take (width - 1)) width with
      | some problem => .error problem
      | none => decodeBlock (rest.drop (width - 1)) (count + 1)
termination_by bytes.length
decreasing_by simp only [List.length_drop, List.length_cons]; omega

/-- What the reader delivers of a stream: the characters before the first block
with a problem, and that problem, if there is one. -/
structure ReaderReach where
  readable : Nat
  problem : Option String
  deriving Repr

/-- The number of bytes the reader takes at a time. -/
def readerBlock : Nat := 512

/-- Reads the blocks after the first: `carry` holds the cut sequence of the block
before, `rest` the bytes not read yet, `readable` the characters so far. -/
def reachAfter (carry rest : List UInt8) (readable : Nat) : Nat → ReaderReach
  | 0 => { readable, problem := none }
  | fuel + 1 =>
    if rest.isEmpty then
      { readable, problem := if carry.isEmpty then none else some "incomplete UTF-8 octet sequence" }
    else
      let taken := readerBlock - carry.length
      match decodeBlock (carry ++ rest.take taken) 0 with
      | .error problem => { readable, problem := some problem }
      | .ok (count, cut) => reachAfter cut (rest.drop taken) (readable + count) fuel

namespace ReaderReach

/-- What the reader delivers of a stream's bytes. The first block loses a byte
order mark at its start. -/
def ofBytes (bytes : List UInt8) : ReaderReach :=
  let first := bytes.take readerBlock
  let first := match first with
    | 0xEF :: 0xBB :: 0xBF :: after => after
    | _ => first
  match decodeBlock first 0 with
  | .error problem => { readable := 0, problem := some problem }
  | .ok (count, cut) => reachAfter cut (bytes.drop readerBlock) count (bytes.length + 1)

end ReaderReach

namespace Document

/-- Reads the first document of a stream of bytes, UTF-8 after an optional byte
order mark; `none` when the stream holds none. -/
def readBytes? (bytes : List UInt8) : Except YamlError (Option Document) :=
  let reach := ReaderReach.ofBytes bytes
  let body := match bytes with
    | 0xEF :: 0xBB :: 0xBF :: rest => rest
    | _ => bytes
  let chars := Utf8.decodeLossy body
  let fuel := 4 * chars.length + 64
  (composeDocument fuel).run' { parser := Parser.ofChars chars reach.readable reach.problem }

/-- Reads the first document of a text; `none` when the text holds none. -/
def read? (text : String) : Except YamlError (Option Document) := readBytes? (Utf8.encode text)

end Document

end HeapKit.Yaml
