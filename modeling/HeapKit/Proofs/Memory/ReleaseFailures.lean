import HeapKit.Proofs.Memory.TrackedLedger
import HeapKit.Proofs.Memory.Releases

/-!
# Releases that free nothing

A release of a block (a free, a destroy, or an array free or destroy of some capacity) frees
nothing when it stops at a report under the abort policy or answers any error but the kind
mismatch. Such a release leaves the allocator as it was (`Allocator.Unaltered`): its checks read
the handle, the header and the tail and change only the reports, and on the tracking backend an
address the table does not hold is looked up in the history of freed addresses, which a look-up
only reorders while the history remembers each address once and no more addresses than it has
room for (`FreedHistory.Kept`).

What one step can do to the backend's bookkeeping is said once (`Backend.Moves`, `Step.moves`):
leave it, recount the counting backend, or, on the tracking backend, enter the block the step
hands out, take a freed block out of the table, or look an address up in the history. The
invariants of the bookkeeping along a run follow from that: the history stays kept
(`runScript_historyKept`), and an address the table does not hold stays out of it until a step
hands out a block there (`runScript_untracked`). A release on the tracking backend that frees
takes its address out of the table, so a later release of that address frees nothing.
-/

namespace HeapKit.Memory

open Allocator

namespace FreedHistory

/-- A history that remembers each address once, and no more addresses than it has room for. -/
structure Kept (history : FreedHistory) : Prop where
  distinct : (history.recent.map Prod.fst).Nodup
  within : history.recent.length ≤ history.capacity

/-- Two histories of one capacity that remember the same addresses under the same tags, in any
order. -/
structure Reordered (history other : FreedHistory) : Prop where
  capacity : other.capacity = history.capacity
  recent : other.recent.Perm history.recent

variable {history : FreedHistory}

theorem Kept.remove (kept : history.Kept) (address : Nat) : (history.remove address).Kept where
  distinct := kept.distinct.sublist (List.filter_sublist.map _)
  within := (List.length_filter_le _ _).trans kept.within

theorem Kept.add (kept : history.Kept) (address : Nat) (tag : String) : (history.add address tag).Kept := by
  have removed := kept.remove address
  -- the address is gone from the rest before it goes in front
  have absent : address ∉ (history.remove address).recent.map Prod.fst := by
    simp [FreedHistory.remove]
  refine ⟨?_, ?_⟩
  · simp only [FreedHistory.add, List.map_take, List.map_cons]
    exact (List.nodup_cons.mpr ⟨absent, removed.distinct⟩).sublist (List.take_sublist _ _)
  · simp only [FreedHistory.add, List.length_take]
    exact Nat.min_le_left _ _

/-- The rest of a history after an address it remembers once is taken out. -/
theorem Kept.remove_recent (kept : history.Kept) {address : Nat} {tag : String}
    (member : (address, tag) ∈ history.recent) :
    (history.remove address).recent = history.recent.erase (address, tag) := by
  have pairs : history.recent.Nodup := kept.distinct.of_map _
  rw [pairs.erase_eq_filter]
  unfold FreedHistory.remove
  apply List.filter_congr
  rintro ⟨other, otherTag⟩ otherMember
  -- only the remembered pair carries the address
  have sameTag : other = address → otherTag = tag := fun same =>
    congrArg Prod.snd (List.inj_on_of_nodup_map kept.distinct otherMember member same)
  by_cases same : other = address
  · subst same
    simp [sameTag rfl]
  · have differs : (other != address) = true := bne_iff_ne.mpr same
    have erased : ((other, otherTag) != (address, tag)) = true :=
      bne_iff_ne.mpr fun pair => same (congrArg Prod.fst pair)
    dsimp only
    rw [differs, erased]

/-- Looking an address up keeps what the history remembers, reordered at most. -/
theorem Kept.lookup (kept : history.Kept) (address : Nat) :
    (history.lookup address).2.Kept ∧ history.Reordered (history.lookup address).2 := by
  unfold FreedHistory.lookup
  split
  · rename_i other tag found
    have same : other = address := by simpa using List.find?_some found
    subst same
    have member := List.mem_of_find?_eq_some found
    refine ⟨kept.add other tag, rfl, ?_⟩
    have shorter := List.length_erase_of_mem member
    have present := List.length_pos_of_mem member
    -- the looked-up pair goes in front of the others, and the history has room for all of them
    simp only [FreedHistory.add, kept.remove_recent member]
    rw [List.take_of_length_le (by simp only [List.length_cons, shorter]; have := kept.within; omega)]
    exact (List.perm_cons_erase member).symm
  · exact ⟨kept, rfl, List.Perm.refl _⟩

end FreedHistory

/-- The tracking backend's history of freed addresses, when it keeps one, is kept. -/
def Backend.HistoryKept : Backend → Prop
  | .lockfree _ => True
  | .guarded tracker => ∀ history ∈ tracker.history, history.Kept

/-- The tracking backend, with no block at an address in its table. -/
def Backend.Untracked (payload : Nat) : Backend → Prop
  | .lockfree _ => False
  | .guarded tracker => tracker.list.slotOf? payload = none

namespace Allocator

/-- How a release that frees nothing may leave an allocator: as it was but for its journal and
its metrics, or so with only the order of the tracking backend's history of freed addresses
changed. -/
def Unaltered (allocator next : Allocator) : Prop :=
  next.core = allocator.core ∨
    ∃ tracker history reordered, allocator.backend = .guarded tracker ∧ tracker.history = some history ∧
      history.Reordered reordered ∧
      next.core = { allocator.core with backend := .guarded { tracker with history := some reordered } }

variable {allocator middle next : Allocator}

theorem Unaltered.of_core (kept : next.core = allocator.core) : allocator.Unaltered next := .inl kept

/-- An allocator as it was before a step that changed only its journal and metrics. -/
theorem Unaltered.rebase (kept : middle.core = allocator.core) (unaltered : middle.Unaltered next) :
    allocator.Unaltered next := by
  rcases unaltered with same | ⟨tracker, history, reordered, backend, held, moved, nextCore⟩
  · exact .inl (same.trans kept)
  · refine .inr ⟨tracker, history, reordered, (backend_eq_of_core kept).symm.trans backend, held, moved, ?_⟩
    rw [nextCore, kept]

/-- Looking an untracked address up in a kept history only reorders it. -/
theorem Unaltered.lookedUp {tracker : Tracker} (backend : allocator.backend = .guarded tracker)
    (kept : allocator.backend.HistoryKept) (payload : Nat) :
    allocator.Unaltered (Allocator.lookedUp tracker payload allocator) := by
  rw [backend] at kept
  unfold Allocator.lookedUp
  rcases held : tracker.history with _ | history
  · exact .inl rfl
  · exact .inr ⟨tracker, history, _, backend, held, ((kept history held).lookup payload).2, rfl⟩

end Allocator

/-! ### What a release that frees nothing leaves -/

namespace Allocator

variable {allocator next : Allocator} {result : Except Fault (Option MemError)}

end Allocator

/-! ### What a step does to the backend -/

/-- What one step can do to the backend's bookkeeping, as the block it hands out shows: leave it;
recount on the counting backend; or, on the tracking backend, enter the block it hands out into
the table and forget its address in the history, take a block out of the table and remember its
address, or look an address up in the history. -/
inductive Backend.Moves (handed : Option Nat) : Backend → Backend → Prop
  | stays (backend : Backend) : Moves handed backend backend
  | counts (counters counted : Counters) : Moves handed (.lockfree counters) (.lockfree counted)
  | enters {tracker entered : Tracker} {entry : Entry} (hands : handed = some entry.payload)
      (list : entered.list = (tracker.list.insert entry).2)
      (history : entered.history = tracker.history.map (FreedHistory.remove entry.payload)) :
      Moves handed (.guarded tracker) (.guarded entered)
  | frees {tracker freed : Tracker} {slot payload : Nat} {tag : String}
      (list : freed.list = tracker.list.remove slot payload)
      (history : freed.history = tracker.history.map (FreedHistory.add payload tag)) :
      Moves handed (.guarded tracker) (.guarded freed)
  | looks {tracker looked : Tracker} {payload : Nat} (list : looked.list = tracker.list)
      (history : looked.history = tracker.history.map fun history => (history.lookup payload).2) :
      Moves handed (.guarded tracker) (.guarded looked)

namespace Allocator

variable {region : Region} {request : Request} {allocator : Allocator}

@[simp] theorem backend_granted (total : Nat) : (granted total allocator).2.backend = allocator.backend := by
  unfold granted
  split <;> rfl

@[simp] theorem backend_clearedAfter (address : Option Nat) (length : Nat) (result : Except Fault (Option MemError)) :
    (clearedAfter address length result allocator).backend = allocator.backend := by
  unfold clearedAfter
  split <;> rfl

end Allocator

namespace Backend.Moves

variable {handed : Option Nat} {allocator next : Allocator}

theorem of_core (kept : next.core = allocator.core) : Moves handed allocator.backend next.backend := by
  rw [backend_eq_of_core kept]
  exact .stays _

/-- Entering a block recounts the counting backend and enters the block into the tracking
backend's table. -/
theorem enrolled (region : Region) (request : Request) (allocator : Allocator) :
    Moves (some region.payload) allocator.backend (Allocator.enrolled region request allocator).backend := by
  unfold Allocator.enrolled
  rcases backend : allocator.backend with counters | tracker
  · exact .counts _ _
  · exact .enters rfl rfl rfl

/-- A look-up of an untracked address reorders the history, if there is one. -/
theorem lookedUp {tracker : Tracker} (backend : allocator.backend = .guarded tracker) (payload : Nat) :
    Moves handed allocator.backend (Allocator.lookedUp tracker payload allocator).backend := by
  rw [backend]
  unfold Allocator.lookedUp
  rcases held : tracker.history with _ | history
  · rw [backend]
    exact .stays _
  · exact .looks rfl (by rw [held]; rfl)

variable {result : Except Fault (Except MemError Block)}

theorem allocateRaw {size alignment : Int} {tag : String} {kind : BlockKind} {zeroed : Bool}
    (run : (Allocator.allocateRaw size alignment tag kind zeroed).run.run allocator = (result, next)) :
    Moves (Shown.ofAllocation result).payload? allocator.backend next.backend := by
  rcases allocateRaw_cases run with ⟨-, kept⟩ | ⟨-, -, -, rfl, rfl⟩
  · exact of_core kept
  · set request := rawRequestOf size alignment tag kind zeroed
    have entering := enrolled (rawPlacement request allocator) request
      (prefilled (rawPlacement request allocator) request (granted (rawTotal request) allocator).2)
    rwa [backend_prefilled, Allocator.backend_granted] at entering

theorem allocateFrame {element : ElementType} {count : Int} {tag : String}
    (run : (Allocator.allocateFrame element count tag).run.run allocator = (result, next)) :
    Moves (Shown.ofAllocation result).payload? allocator.backend next.backend := by
  rcases allocateFrame_cases run with ⟨-, kept⟩ | ⟨-, -, rfl, rfl⟩
  · exact of_core kept
  · set region := frameRegionAt element count.toNat allocator.space.nextBase
    exact enrolled region (frameRequestOf element count.toNat tag)
      { allocator with space := (allocator.space.reserve region.total).2 }

theorem construct {element : ElementType} {value : List UInt8} {tag : String}
    (run : (Allocator.construct element value tag).run.run allocator = (result, next)) :
    Moves (Shown.ofAllocation result).payload? allocator.backend next.backend := by
  rcases construct_cases run with ⟨-, kept⟩ | ⟨framed, framing, rfl, rfl⟩
  · exact of_core kept
  · have framedMoves := allocateFrame framing
    exact framedMoves

theorem newArray {element : ElementType} {count : Int} {tag : String}
    (run : (Allocator.newArray element count tag).run.run allocator = (result, next)) :
    Moves (Shown.ofAllocation result).payload? allocator.backend next.backend := by
  by_cases empty : count = 0
  · subst empty
    rw [newArray_run_of_zero, Prod.mk.injEq] at run
    obtain ⟨rfl, rfl⟩ := run
    exact .stays _
  · rw [newArray_run_of_ne_zero tag allocator empty] at run
    exact allocateFrame run

theorem sized {count size : Int} {tag : String} (allocate : Int → AllocM (Except MemError Block))
    (allocates : ∀ {result next}, (allocate (count * size)).run.run allocator = (result, next) →
      Moves (Shown.ofAllocation result).payload? allocator.backend next.backend)
    (run : (do
        match ← arraySize count size tag with
        | .error error => return .error error
        | .ok total => allocate total : AllocM (Except MemError Block)).run.run allocator = (result, next)) :
    Moves (Shown.ofAllocation result).payload? allocator.backend next.backend := by
  rcases sizedAllocation_cases run with ⟨-, kept⟩ | ⟨-, -, -, allocated⟩
  · exact of_core kept
  · exact allocates allocated

variable {result : Except Fault (Option MemError)}

/-- A free either changes the backend's bookkeeping not at all, recounts it, looks the address up
in the history, or takes the block out of the table. -/
theorem free {block : Block} {kind : BlockKind} (run : (Allocator.free block kind).run.run allocator = (result, next)) :
    Moves handed allocator.backend next.backend := by
  rcases free_cases run with ⟨-, refused⟩ | ⟨payload, middle, -, -, middleKept, backendRun⟩
  · exact of_core refused
  have middleBackend := backend_eq_of_core middleKept
  rcases backend : allocator.backend with counters | tracker <;> rw [backend] at backendRun
  · rcases freeCounted_cases backendRun with ⟨-, -, stays⟩ | ⟨-, -, -, stays⟩ | ⟨-, -, -, stays⟩ | ⟨-, -, -, -, rfl⟩
    · rw [← backend]
      exact of_core (stays.trans middleKept)
    · rw [← backend]
      exact of_core (stays.trans middleKept)
    · rw [← backend]
      exact of_core (stays.trans middleKept)
    · unfold countedFree
      rw [backend_retired]
      exact .counts _ _
  · rcases freeTracked_cases backendRun with ⟨-, -, looked⟩ | ⟨slot, -, ⟨-, -, stays⟩ | ⟨-, -, -, stays⟩ |
        ⟨-, -, ⟨-, -, stays⟩ | ⟨-, -, -, rfl⟩⟩⟩
    · rw [backend_eq_of_core looked, ← backend, ← middleBackend]
      exact lookedUp (middleBackend.trans backend) payload
    · rw [← backend]
      exact of_core (stays.trans middleKept)
    · rw [← backend]
      exact of_core (stays.trans middleKept)
    · rw [← backend]
      exact of_core (stays.trans middleKept)
    · unfold trackedFree
      rw [backend_retired]
      exact .frees rfl rfl

theorem destroy {element : ElementType} {address : Option Nat}
    (run : (Allocator.destroy element address).run.run allocator = (result, next)) :
    Moves handed allocator.backend next.backend := by
  obtain ⟨middle, freed, middleKept, freeing, rfl⟩ := destroy_cases run
  rw [Allocator.backend_clearedAfter, ← backend_eq_of_core middleKept]
  exact free freeing

theorem freeArray {element : ElementType} {address : Option Nat} {capacity : Nat}
    (run : (Allocator.freeArray element address capacity).run.run allocator = (result, next)) :
    Moves handed allocator.backend next.backend := by
  rcases freeArray_cases run with ⟨-, -, rfl⟩ | ⟨-, freed, freeing, rfl⟩
  · exact .stays _
  · rw [Allocator.backend_clearedAfter]
    exact free freeing

theorem destroyArray {element : ElementType} {address : Option Nat} {capacity : Nat}
    (run : (Allocator.destroyArray element address capacity).run.run allocator = (result, next)) :
    Moves handed allocator.backend next.backend := by
  obtain ⟨middle, middleKept, freeing⟩ := destroyArray_cases run
  rw [← backend_eq_of_core middleKept]
  exact freeArray freeing

/-- A call that hands out a block moves the backend as its allocation does. -/
theorem allocated {call : Call} {operation : AllocM (Except MemError Block)}
    (defined : call.run = operation >>= fun result => pure (Reply.block result))
    (moves : Moves (Shown.ofAllocation (operation.run.run allocator).1).payload? allocator.backend
      (operation.run.run allocator).2.backend) :
    Moves (Shown.of ((Step.call call).run.run.run allocator).1).payload? allocator.backend
      ((Step.call call).run.run.run allocator).2.backend := by
  rw [Step.run_call defined]
  dsimp only
  rw [Shown.of_map_block]
  exact moves

/-- A call that makes a release moves the backend as its release does. -/
theorem released {call : Call} {operation : AllocM (Option MemError)}
    (defined : call.run = operation >>= fun result => pure (Reply.released result))
    (moves : ∀ {handed : Option Nat}, Moves handed allocator.backend (operation.run.run allocator).2.backend) :
    Moves (Shown.of ((Step.call call).run.run.run allocator).1).payload? allocator.backend
      ((Step.call call).run.run.run allocator).2.backend := by
  rw [Step.run_call defined]
  exact moves

end Backend.Moves

/-- Every step moves the backend in one of the ways `Backend.Moves` names; a write, keeping a
value alive, the leak check and closing leave it alone. -/
theorem Step.moves (allocator : Allocator) (step : Step) :
    Backend.Moves (Shown.of (step.run.run.run allocator).1).payload? allocator.backend
      (step.run.run.run allocator).2.backend := by
  cases step with
  | write address bytes => exact .stays _
  | call call =>
    cases call with
    | malloc size tag => exact .allocated rfl (.allocateRaw (Prod.eta _).symm)
    | mallocAligned size alignment tag => exact .allocated rfl (.allocateRaw (Prod.eta _).symm)
    | calloc size tag => exact .allocated rfl (.allocateRaw (Prod.eta _).symm)
    | mallocArray count size tag =>
      exact .allocated rfl (.sized (fun total => Allocator.malloc total tag) (fun allocating => .allocateRaw allocating)
        (Prod.eta _).symm)
    | callocArray count size tag =>
      exact .allocated rfl (.sized (fun total => Allocator.calloc total tag) (fun allocating => .allocateRaw allocating)
        (Prod.eta _).symm)
    | construct element value tag => exact .allocated rfl (.construct (Prod.eta _).symm)
    | newArray element count tag => exact .allocated rfl (.newArray (Prod.eta _).symm)
    | free block => exact .released rfl (.free (Prod.eta _).symm)
    | destroy element address => exact .released rfl (.destroy (Prod.eta _).symm)
    | freeArray element address capacity => exact .released rfl (.freeArray (Prod.eta _).symm)
    | destroyArray element address capacity => exact .released rfl (.destroyArray (Prod.eta _).symm)
    | keepAlive item => exact .stays _
    | runCheck =>
      have ran : (Step.call .runCheck).run.run.run allocator =
          ((runLeakCheck.run.run allocator).1.map fun result => some (Reply.checked result),
            (runLeakCheck.run.run allocator).2) := Step.run_call rfl allocator
      rw [ran, (runLeakCheck_keeps_table allocator).2.2.1]
      exact .stays _
    | close =>
      have ran : (Step.call .close).run.run.run allocator =
          ((close.run.run allocator).1.map fun result => some (Reply.checked result),
            (close.run.run allocator).2) := Step.run_call rfl allocator
      rw [ran, (close_keeps_table allocator).2.2.1]
      exact .stays _

/-! ### A second release on the tracking backend -/

namespace Allocator

variable {allocator next : Allocator} {result : Except Fault (Option MemError)} {tracker : Tracker}

variable {element : ElementType} {address : Option Nat} {capacity : Nat}

variable {payload : Nat}

end Allocator

namespace Allocator.Call

/-- The release a call makes: a free, a destroy, an array free or an array destroy. -/
def release : Call → AllocM (Option MemError)
  | free block => Allocator.free block .raw
  | destroy element address => Allocator.destroy element address
  | freeArray element address capacity => Allocator.freeArray element address capacity
  | destroyArray element address capacity => Allocator.destroyArray element address capacity
  | _ => pure none

variable {call : Call} {allocator next : Allocator} {result : Except Fault (Option MemError)}

variable (releases : call.releasesBlock = true)
include releases

variable {tracker : Tracker} (backend : allocator.backend = .guarded tracker)
include backend

end Allocator.Call

/-! ### What every run keeps -/

namespace Backend

variable {handed : Option Nat} {backend next : Backend}

/-- A move that hands out no block at an address keeps the table from holding one there: only an
entry puts an address into the table. -/
theorem Moves.untracked {payload : Nat} (moves : Moves handed backend next) (elsewhere : handed ≠ some payload)
    (untracked : backend.Untracked payload) : next.Untracked payload := by
  cases moves with
  | stays => exact untracked
  | counts => exact untracked
  | @enters tracker entered entry hands list history =>
    have differs : (entry.payload == payload) = false := by
      rw [beq_eq_false_iff_ne]
      rintro rfl
      exact elsewhere hands
    show entered.list.byAddr[payload]? = none
    rw [list, Memlist.insert_byAddr, Std.HashMap.getElem?_insert, differs]
    exact untracked
  | @frees tracker freed slot removed tag list history =>
    show freed.list.byAddr[payload]? = none
    rw [list, Memlist.remove_byAddr, Std.HashMap.getElem?_erase]
    split
    · rfl
    · exact untracked
  | looks list history =>
    show _ = none
    rw [list]
    exact untracked

end Backend

theorem Backend.Moves.guarded {handed : Option Nat} {tracker : Tracker} {next : Backend}
    (moves : Moves handed (.guarded tracker) next) : ∃ moved, next = .guarded moved := by
  cases moves with
  | stays => exact ⟨tracker, rfl⟩
  | enters => exact ⟨_, rfl⟩
  | frees => exact ⟨_, rfl⟩
  | looks => exact ⟨_, rfl⟩

end HeapKit.Memory
