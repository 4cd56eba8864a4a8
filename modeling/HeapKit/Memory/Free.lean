import HeapKit.Memory.Allocator

/-!
# Freeing blocks

A free first checks the pointer: a free after the leak check is reported (and
still carried out), a nil block and a pointer that is not word aligned are
refused. Then each backend checks the block in its own way.

* The counting backend reads the header: freed tags make a double free, any
  other invalid header an error in the header.
* The tracking backend looks the address up in its list. An unknown address is
  a double free when the history still remembers it, and otherwise not in the
  list. A header that does not match its entry, or a damaged tail, is reported,
  and then every other block in the list is checked too.

A block created by the other API is reported as a kind mismatch, but it is
still freed: the error is returned afterwards. A freed block has both header
tags and its tail tag set to `FREE`, a byte block's payload is filled with
`0xFF` under the memset setting, and its region goes back to the source.
-/

namespace HeapKit.Memory

namespace Allocator

/-- The checks every free starts with. -/
def precheck (address : Option Nat) : AllocM (Option MemError) := do
  if (← get).leakRan then
    reportError ("Freeing memory after the leak detector has run. " ++
      "Release long-lived data through LeakDetector.KeepAlive instead.")
  match address with
  | none =>
    blockError "nil_block" "unknown" "attempt to free nil block"
    return some (.of .nilBlock)
  | some address =>
    if address % minimumAlignment != 0 then
      blockError "illegal_pointer" (addressName address) "attempt to free illegal pointer"
      return some (.of .illegalPointer)
    return none

/-- Checks that a block was created by the API that frees it. -/
def checkKind (header : Header) (expected : BlockKind) (block : String) : AllocM (Option MemError) := do
  if header.kind == expected.code then return none
  match expected with
  | .raw =>
    blockError "kind_mismatch" block "attempt to use raw Free on a block created with Construct or NewArray"
  | .typed =>
    blockError "kind_mismatch" block "attempt to use Destroy or FreeArray on a block created with Malloc or Calloc"
  return some (.of .kindMismatch)

/-- Marks a block freed and gives its region back. -/
def retire (header : Header) (payload : Nat) : AllocM Unit := do
  if (← get).settings.debugMemset && !header.isFrame then
    modify fun allocator =>
      { allocator with space := allocator.space.fill payload header.length.toNat 0xFF }
  storeHeader payload header.markFreed
  storeTail payload header.tailOffset freedTag
  if !header.isFrame then
    let offset := header.offset.toNat
    sourceRelease (payload - offset)
      (offset + header.length.toNat + tailSize + header.slack.toNat)

/-- The counting backend's free. -/
def freeCounted (counters : Counters) (payload : Nat) (kind : BlockKind) :
    AllocM (Option MemError) := do
  let block := addressName payload
  let header ← loadHeader payload
  if header.isFreed then
    blockError "double_free" block "double free"
    return some (.of .doubleFree)
  if !header.isValid then
    blockError "corrupt_header" block "error in header"
    return some (.of .corruptHeader)
  let mismatch ← checkKind header kind block
  -- Where several callers may free one block at once, each claims the front tag here with
  -- `claimFront` and reports a double free when it loses. A single caller always wins on a
  -- valid header, whose front tag it has just read as live (`Allocator.claimFront_of_live`),
  -- so the step is left out.
  modify fun allocator =>
    { allocator with
      backend := .lockfree { counters with blocks := counters.blocks - 1,
                                           bytes := counters.bytes - header.length.toNat } }
  retire header payload
  return mismatch

/-- Checks every tracked block but one, reporting each damaged header or tail. -/
def checkMemlist (list : Memlist) (skip : Nat) : AllocM Unit := do
  for slot in list.chain do
    if slot != skip then
      let entry := (list.entryAt? slot).getD default
      let header ← loadHeader entry.payload
      if !header.isValid || header.slot.toNat != slot + 1 then
        blockError "corrupt_header" entry.tag "header is also corrupt"
      else if (← loadTail entry.payload header.tailOffset) != liveTailTag then
        blockError "corrupt_tail" entry.tag "end is also corrupt"

/-- The tracking backend's free. -/
def freeTracked (tracker : Tracker) (payload : Nat) (kind : BlockKind) :
    AllocM (Option MemError) := do
  match tracker.list.slotOf? payload with
  | none =>
    match tracker.history with
    | some history =>
      let (tag, history) := history.lookup payload
      modify fun allocator => { allocator with backend := .guarded { tracker with history := some history } }
      match tag with
      | some tag =>
        blockError "double_free" tag "double free"
        return some (.of .doubleFree)
      | none =>
        blockError "not_in_memlist" (addressName payload) "pointer not in memlist"
        return some (.of .notInMemlist)
    | none =>
      blockError "not_in_memlist" (addressName payload) "pointer not in memlist"
      return some (.of .notInMemlist)
  | some slot =>
    let entry := (tracker.list.entryAt? slot).getD default
    let tag := entry.tag
    let header ← loadHeader payload
    if !header.isValid || header.slot.toNat != slot + 1 || header.length.toNat != entry.length then
      blockError "corrupt_header" tag "error in header"
      checkMemlist tracker.list slot
      return some (.of .corruptHeader)
    if (← loadTail payload header.tailOffset) != liveTailTag then
      blockError "corrupt_tail" tag "end corrupt"
      checkMemlist tracker.list slot
      return some (.of .corruptTail)
    let mismatch ← checkKind header kind tag
    modify fun allocator =>
      { allocator with
        backend := .guarded
          { tracker with
            list := tracker.list.remove slot payload
            history := tracker.history.map (FreedHistory.add payload tag)
            blocks := tracker.blocks - 1
            bytes := tracker.bytes - header.length.toNat } }
    retire header payload
    return mismatch

/-- Frees a block through the API of a kind. -/
def free (block : Block) (kind : BlockKind) : AllocM (Option MemError) := do
  if let some error ← precheck block.address then return some error
  let payload := block.address.getD 0
  match (← get).backend with
  | .lockfree counters => freeCounted counters payload kind
  | .guarded tracker => freeTracked tracker payload kind

/-- `Free`: frees a byte block. -/
def freeRaw (block : Block) : AllocM (Option MemError) := free block .raw

/-- Whether an address is the payload of a live block: by its header for the
counting backend, by its list for the tracking backend. -/
def isLive (address : Option Nat) : AllocM Bool := do
  match address with
  | none => return false
  | some payload =>
    match (← get).backend with
    | .lockfree _ =>
      if payload % minimumAlignment != 0 then return false
      return (← loadHeader payload).isValid
    | .guarded tracker => return (tracker.list.slotOf? payload).isSome

/-- Switches to the tracking backend. This is allowed once, and only while no
block is in use. -/
def useGuarded : AllocM (Option MemError) := do
  let allocator ← get
  if allocator.switched then return some (.of .backendFixed)
  let blocks := allocator.usage.blocks
  if blocks != 0 then
    reportError ("cannot switch to the guarded backend with " ++ toString blocks ++ " blocks in use")
    return some (MemError.withContext .allocatorInUse (toString blocks ++ " blocks in use"))
  let history : Option FreedHistory :=
    if 0 < allocator.settings.freedHistory then some { capacity := allocator.settings.freedHistory.toNat }
    else none
  set { allocator with backend := .guarded { history }, switched := true }
  return none

end Allocator

end HeapKit.Memory
