import HeapKit.Request.MemoryConfig
import HeapKit.Request.Script

/-!
# Allocator sessions

A memory script runs against one allocator and keeps a handle for every block
it made: the payload address (none for an array without elements), the block's
length, its element type if it is typed, and the range of bytes the script may
touch through it, from the header to the end of the tail.

Answers never show addresses. In every message, a hexadecimal address is
replaced by `#` and the number of the latest handle with that payload address,
or by `0x?` when no handle has it.
-/

namespace HeapKit.Request

open HeapKit.Memory

/-- The element types a memory script can name. -/
def memoryType? : String → Option ElementType
  | "u8" => some { name := "uint8", size := 1, alignment := 1 }
  | "int8" => some { name := "int8", size := 1, alignment := 1 }
  | "int32" => some { name := "int32", size := 4, alignment := 4 }
  | "int64" => some { name := "int64", size := 8, alignment := 8 }
  | "arr3" => some { name := "[3]int32", size := 12, alignment := 4 }
  | "big" => some { name := "[13]int64", size := 104, alignment := 8 }
  | "res" => some { name := "main.res", size := 8, alignment := 8, finalized := true }
  | _ => none

/-- The element type a field names; the field must be given. -/
def typeField (step : Json) (name : String) : Outcome (String × ElementType) := do
  let typeName ← requiredText step name
  match memoryType? typeName with
  | some element => pure (typeName, element)
  | none => refuse ("unknown element type " ++ Quoted.quote typeName)

/-- The low `width` bytes of a 64-bit integer, least significant first: the
integer converted to a narrower word, which drops the high bytes. -/
def lowBytes (width : Nat) (value : Int64) : List UInt8 :=
  Endian.bytesLE width (value.toInt % Int.pow 2 (8 * width)).toNat

/-- The bytes of a value of a named type. Every integer is read as a 64-bit
integer and converted to the type's words; `arr3` takes a list of at most
three, which fill its words from the first, and `big` takes the first of
thirteen consecutive integers. -/
def encodeValue (typeName : String) (value : Json) : Outcome (List UInt8) := do
  match typeName with
  | "u8" | "int8" => pure (lowBytes 1 (← readInt64 "value" value))
  | "int32" => pure (lowBytes 4 (← readInt64 "value" value))
  | "int64" | "res" => pure (lowBytes 8 (← readInt64 "value" value))
  | "arr3" =>
    let refusal := "arr3 value must be a list of at most 3 ints"
    let items ← match value with
      | .array items => if items.length ≤ 3 then pure items else refuse refusal
      | _ => refuse refusal
    let words ← match readEach (readInt64 "value") items with
      | .ok words => pure words
      | .error _ => refuse refusal
    pure ((words.flatMap (lowBytes 4)) ++ List.replicate (4 * (3 - items.length)) 0)
  | "big" =>
    let first ← readInt64 "value" value
    pure ((List.range 13).flatMap fun index => lowBytes 8 (first + Int64.ofNat index))
  | _ => refuse ("unknown element type " ++ Quoted.quote typeName)

/-- A block the script made. -/
structure Handle where
  address : Option Nat
  length : Int
  element : Option (String × ElementType)
  count : Nat
  high : Int
  alignment : Nat
  unmapped : Bool := false
  deriving Repr, Inhabited

/-- The bytes a script may take a handle's block to hold: a byte block's length
rounded up to whole words of four bytes, a typed block's length as it is. -/
def Handle.usableLength (handle : Handle) : Int :=
  if handle.element.isSome then handle.length else roundLength handle.length.toNat

/-- A memory script's state: the allocator, the handles in creation order, and
whether the allocator was handed a chunk source. -/
structure Session where
  allocator : Allocator
  handles : Array Handle := #[]
  givenChunks : Bool := false
  deriving Inhabited

namespace Session

/-- Whether the allocator maps every byte block on its own. -/
def mapsBlocks (session : Session) : Bool :=
  match session.allocator.source with
  | .mmap => true
  | _ => false

/-- The number of the latest handle with a payload address. -/
def latestAt? (session : Session) (address : Nat) : Option Nat :=
  ((List.range session.handles.size).filter fun index =>
    match session.handles[index]? with
    | some handle => handle.address == some address
    | none => false).getLast?

/-- The number of the first handle with a payload address. -/
def firstAt? (session : Session) (address : Nat) : Option Nat :=
  (List.range session.handles.size).find? fun index =>
    match session.handles[index]? with
    | some handle => handle.address == some address
    | none => false

/-- The replacement of an address found in a message. -/
def addressText (session : Session) (text : String) : String :=
  match (List.range session.handles.size).reverse.find? fun index =>
      match session.handles[index]? with
      | some handle => handle.address.map addressName == some text
      | none => false with
  | some index => "#" ++ toString index
  | none => "0x?"

/-- Whether a character is a lowercase hexadecimal digit. -/
def isHexDigit (c : Char) : Bool := c.isDigit || ('a' ≤ c && c ≤ 'f')

/-- Replaces every address in the characters of a message. -/
def scrubChars (session : Session) : List Char → List Char
  | [] => []
  | '0' :: 'x' :: rest =>
    let digits := rest.takeWhile isHexDigit
    if digits.isEmpty then '0' :: 'x' :: scrubChars session rest
    else
      (session.addressText ("0x" ++ String.ofList digits)).toList ++
        scrubChars session (rest.drop digits.length)
  | c :: rest => c :: scrubChars session rest
  termination_by characters => characters.length
  decreasing_by
    all_goals simp only [List.length_cons, List.length_drop]
    all_goals
      first
      | omega
      | (have : 0 < digits.length := by
           cases h : digits with
           | nil => simp_all
           | cons _ _ => simp)
        omega

/-- A message with its addresses replaced. -/
def scrub (session : Session) (message : String) : String :=
  String.ofList (session.scrubChars message.toList)

/-- A library error as an answer. -/
def errorJson (session : Session) : Option MemError → Json
  | none => .null
  | some error =>
    .object [("kind", .string error.kindName), ("message", .string (session.scrub error.message))]

/-- The handle with a number. -/
def handle (session : Session) (id : Int) : Outcome Handle :=
  if 0 ≤ id then
    match session.handles[id.toNat]? with
    | some handle => pure handle
    | none => refuse ("unknown handle " ++ toString id)
  else refuse ("unknown handle " ++ toString id)

/-- The handle a step names, refused when its memory was unmapped. -/
def mappedHandle (session : Session) (step : Json) : Outcome (Nat × Handle) := do
  let id ← requiredInt step "id"
  let handle ← session.handle id.toInt
  if handle.unmapped then refuse ("handle " ++ toString id.toInt ++ " is unmapped")
  pure (id.toInt.toNat, handle)

/-- Marks a handle's memory unmapped. -/
def unmapHandle (session : Session) (id : Nat) : Session :=
  { session with handles := session.handles.modify id fun handle => { handle with unmapped := true } }

/-- Runs an allocator operation. -/
def run {α : Type} (session : Session) (operation : AllocM α) : Except Fault α × Session :=
  let (outcome, allocator) := (operation.run).run session.allocator
  (outcome, { session with allocator })

end Session

/-- A tag word as an answer: its four characters when they are printable, else
its bytes in hexadecimal. -/
def tagJson (bytes : List UInt8) : Json :=
  if bytes.all fun byte => 32 ≤ byte.toNat && byte.toNat ≤ 126 then
    .string (String.ofList (bytes.map fun byte => Char.ofNat byte.toNat))
  else .string ("hex:" ++ Hex.encode bytes)

/-- The header of a handle's block, decoded, with its tail when the tail lies in
the handle's range. -/
def headerJson (session : Session) (handle : Handle) : Json :=
  let payload := handle.address.getD 0
  let bytes := session.allocator.space.readOrZero (payload - headerSize) headerSize
  let header := Header.decode bytes
  let tailOffset := header.tailOffset
  let tail : Json :=
    if (tailOffset : Int) + 4 ≤ handle.high then
      tagJson (session.allocator.space.readOrZero (payload + tailOffset) 4)
    else .null
  let placement : List (String × Json) :=
    if header.isFrame then [("offset", .nat header.offset.toNat), ("slack", .nat header.slack.toNat)]
    else [("offset_plus_slack", .nat (header.offset.toNat + header.slack.toNat))]
  .object ([("tag1", tagJson (bytes.take 4)), ("tag2", tagJson ((bytes.drop 24).take 4)),
    ("kind", .nat header.kind.toNat), ("flags", .nat header.flags.toNat),
    ("alignment", .nat header.alignment.toNat), ("length", .nat header.length.toNat),
    ("slot", .nat header.slot.toNat)] ++ placement ++ [("tail", tail)])

end HeapKit.Request
