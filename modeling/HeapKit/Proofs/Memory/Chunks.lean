import Mathlib
import HeapKit.Memory.ChunkSource

/-!
# Lists of chunks

A chunk source keeps its chunks in base order. Here that order is made exact (`Ordered`: each
chunk ends before the next begins) and each change of the list is followed: a chunk inserted in
order, a chunk replaced by one at the same place, a chunk dropped. In an ordered list of
nonempty chunks a base names at most one chunk, so the lookup by base finds the chunk with that
base, and the lookup of the last chunk starting at or below an address finds the chunk that
holds the address.
-/

namespace HeapKit.Memory

namespace Chunk

/-- Whether an address lies in the chunk's bytes. -/
def contains (chunk : Chunk) (address : Nat) : Bool :=
  chunk.base ≤ address && address < chunk.base + chunk.size

theorem contains_iff (chunk : Chunk) (address : Nat) :
    chunk.contains address = true ↔ chunk.base ≤ address ∧ address < chunk.base + chunk.size := by
  simp [contains]

/-- Two chunks share no byte. -/
def Apart (first second : Chunk) : Prop :=
  first.base + first.size ≤ second.base ∨ second.base + second.size ≤ first.base

end Chunk

namespace ChunkSource

/-- Chunks in base order, each ending at or before the start of every later one. -/
def Ordered (chunks : List Chunk) : Prop :=
  chunks.Pairwise fun first second => first.base + first.size ≤ second.base

/-! ### Inserting in order -/

theorem insertChunk_perm (chunk : Chunk) (chunks : List Chunk) :
    (insertChunk chunk chunks).Perm (chunk :: chunks) := by
  induction chunks with
  | nil => rfl
  | cons first rest inductionHypothesis =>
    unfold insertChunk
    split
    · exact List.Perm.refl _
    · exact (inductionHypothesis.cons first).trans (List.Perm.swap chunk first rest)

theorem mem_insertChunk {chunk other : Chunk} {chunks : List Chunk} :
    other ∈ insertChunk chunk chunks ↔ other = chunk ∨ other ∈ chunks := by
  rw [(insertChunk_perm chunk chunks).mem_iff, List.mem_cons]

/-- A nonempty chunk apart from every chunk of an ordered list goes in at its place. -/
theorem Ordered.insertChunk {chunks : List Chunk} (ordered : Ordered chunks) {chunk : Chunk}
    (nonempty : 0 < chunk.size) (apart : ∀ other ∈ chunks, chunk.Apart other) :
    Ordered (ChunkSource.insertChunk chunk chunks) := by
  induction chunks with
  | nil => exact List.pairwise_singleton _ _
  | cons first rest inductionHypothesis =>
    obtain ⟨firstBefore, restOrdered⟩ := List.pairwise_cons.mp ordered
    have apartFirst := apart first List.mem_cons_self
    unfold ChunkSource.insertChunk
    split
    · -- the chunk starts before the first one, hence before every one
      rename_i earlier
      refine List.pairwise_cons.mpr ⟨?_, ordered⟩
      intro other member
      have apartOther := apart other member
      rcases List.mem_cons.mp member with rfl | later
      · unfold Chunk.Apart at apartOther
        omega
      · have := firstBefore other later
        unfold Chunk.Apart at apartOther
        omega
    · rename_i notEarlier
      refine List.pairwise_cons.mpr ⟨?_, inductionHypothesis restOrdered
        fun other member => apart other (List.mem_cons_of_mem _ member)⟩
      intro other member
      rcases mem_insertChunk.mp member with rfl | later
      · unfold Chunk.Apart at apartFirst
        omega
      · exact firstBefore other later

/-! ### Bases name chunks -/

section Bases

variable {chunks : List Chunk}

/-- In an ordered list of nonempty chunks, two chunks at one base are the same chunk. -/
theorem Ordered.eq_of_base_eq (ordered : Ordered chunks)
    (nonempty : ∀ chunk ∈ chunks, 0 < chunk.size) {first second : Chunk}
    (firstMember : first ∈ chunks) (secondMember : second ∈ chunks) (sameBase : first.base = second.base) :
    first = second := by
  induction chunks with
  | nil => cases firstMember
  | cons head rest inductionHypothesis =>
    obtain ⟨headBefore, restOrdered⟩ := List.pairwise_cons.mp ordered
    have headSize := nonempty head List.mem_cons_self
    rcases List.mem_cons.mp firstMember with rfl | firstRest <;>
      rcases List.mem_cons.mp secondMember with rfl | secondRest
    · rfl
    · have := headBefore second secondRest
      omega
    · have := headBefore first firstRest
      omega
    · exact inductionHypothesis restOrdered
        (fun chunk member => nonempty chunk (List.mem_cons_of_mem _ member)) firstRest secondRest

/-- Two chunks of an ordered list are the same or apart. -/
theorem Ordered.apart_of_ne (ordered : Ordered chunks) {first second : Chunk}
    (firstMember : first ∈ chunks) (secondMember : second ∈ chunks) (different : first ≠ second) :
    first.Apart second := by
  induction chunks with
  | nil => cases firstMember
  | cons head rest inductionHypothesis =>
    obtain ⟨headBefore, restOrdered⟩ := List.pairwise_cons.mp ordered
    rcases List.mem_cons.mp firstMember with rfl | firstRest <;>
      rcases List.mem_cons.mp secondMember with rfl | secondRest
    · exact absurd rfl different
    · exact .inl (headBefore second secondRest)
    · exact .inr (headBefore first firstRest)
    · exact inductionHypothesis restOrdered firstRest secondRest

/-- An address lies in at most one chunk of an ordered list. -/
theorem Ordered.eq_of_contains (ordered : Ordered chunks) {first second : Chunk} {address : Nat}
    (firstMember : first ∈ chunks) (secondMember : second ∈ chunks)
    (inFirst : first.contains address = true) (inSecond : second.contains address = true) :
    first = second := by
  by_contra different
  have apart := ordered.apart_of_ne firstMember secondMember different
  rw [Chunk.contains_iff] at inFirst inSecond
  unfold Chunk.Apart at apart
  omega

/-- The lookup by base finds the chunk with that base. -/
theorem Ordered.find?_base (ordered : Ordered chunks) (nonempty : ∀ chunk ∈ chunks, 0 < chunk.size)
    {chunk : Chunk} (member : chunk ∈ chunks) :
    chunks.find? (fun other => other.base == chunk.base) = some chunk := by
  obtain ⟨found, isFound⟩ : ∃ found, chunks.find? (fun other => other.base == chunk.base) = some found :=
    Option.isSome_iff_exists.mp (List.find?_isSome.mpr ⟨chunk, member, by simp⟩)
  rw [isFound]
  have sameBase : found.base = chunk.base := by simpa using List.find?_some isFound
  rw [ordered.eq_of_base_eq nonempty (List.mem_of_find?_eq_some isFound) member sameBase]

end Bases

/-! ### Replacing and dropping -/

section Changes

variable {source : ChunkSource}

theorem mem_update {chunk replacement other : Chunk} (ordered : Ordered source.chunks)
    (nonempty : ∀ chunk ∈ source.chunks, 0 < chunk.size) (member : chunk ∈ source.chunks)
    (sameBase : replacement.base = chunk.base) :
    other ∈ (source.update replacement).chunks ↔
      other = replacement ∨ (other ∈ source.chunks ∧ other ≠ chunk) := by
  simp only [update, List.mem_map]
  constructor
  · rintro ⟨old, oldMember, rfl⟩
    by_cases atBase : old.base = chunk.base
    · left
      simp [atBase, sameBase]
    · right
      have different : old ≠ chunk := fun same => atBase (congrArg Chunk.base same)
      simp only [sameBase, beq_iff_eq, atBase, if_false]
      exact ⟨oldMember, different⟩
  · rintro (rfl | ⟨oldMember, different⟩)
    · exact ⟨chunk, member, by simp [sameBase]⟩
    · refine ⟨other, oldMember, ?_⟩
      have atBase : other.base ≠ chunk.base :=
        fun same => different (ordered.eq_of_base_eq nonempty oldMember member same)
      simp [sameBase, atBase]

/-- Replacing a chunk by one over the same bytes keeps the order. -/
theorem Ordered.update {chunk replacement : Chunk} (ordered : Ordered source.chunks)
    (nonempty : ∀ chunk ∈ source.chunks, 0 < chunk.size) (member : chunk ∈ source.chunks)
    (sameBase : replacement.base = chunk.base) (sameSize : replacement.size = chunk.size) :
    Ordered (source.update replacement).chunks := by
  -- every chunk keeps its base and size: the replaced one is the only one at that base
  have keeps : ∀ old ∈ source.chunks,
      (if old.base == replacement.base then replacement else old).base = old.base ∧
        (if old.base == replacement.base then replacement else old).size = old.size := by
    intro old oldMember
    by_cases atBase : old.base = chunk.base
    · have same := ordered.eq_of_base_eq nonempty oldMember member atBase
      subst same
      simp [sameBase, sameSize]
    · simp [sameBase, atBase]
  unfold Ordered ChunkSource.update
  rw [List.pairwise_map]
  refine List.Pairwise.imp_of_mem ?_ ordered
  intro first second firstMember secondMember before
  rw [(keeps first firstMember).1, (keeps first firstMember).2, (keeps second secondMember).1]
  exact before

theorem mem_drop {base : Nat} {other : Chunk} :
    other ∈ (source.drop base).chunks ↔ other ∈ source.chunks ∧ other.base ≠ base := by
  simp [drop]

theorem Ordered.drop (ordered : Ordered source.chunks) (base : Nat) :
    Ordered (source.drop base).chunks :=
  ordered.filter _

end Changes

/-! ### Lookups -/

section Lookups

variable {source : ChunkSource}

theorem chunkAt?_eq_some (ordered : Ordered source.chunks)
    (nonempty : ∀ chunk ∈ source.chunks, 0 < chunk.size) {chunk : Chunk}
    (member : chunk ∈ source.chunks) : source.chunkAt? chunk.base = some chunk := by
  unfold chunkAt?
  exact ordered.find?_base nonempty member

/-- In an ordered list, the last chunk at or below an address inside a chunk is that chunk. -/
theorem chunkBelow?_eq_some (ordered : Ordered source.chunks) {address : Nat} {chunk : Chunk}
    (member : chunk ∈ source.chunks) (inside : chunk.contains address = true) :
    source.chunkBelow? address = some chunk := by
  rw [Chunk.contains_iff] at inside
  obtain ⟨before, after, split⟩ := List.append_of_mem member
  have splitOrdered : Ordered (before ++ chunk :: after) := split ▸ ordered
  unfold Ordered at splitOrdered
  rw [List.pairwise_append, List.pairwise_cons] at splitOrdered
  obtain ⟨-, ⟨laterAfter, -⟩, earlierBefore⟩ := splitOrdered
  -- the chunks before it start below the address, the chunks after it above
  have keptBefore : before.filter (fun other => other.base ≤ address) = before := by
    refine List.filter_eq_self.mpr fun other otherMember => ?_
    have := earlierBefore other otherMember chunk List.mem_cons_self
    simp only [decide_eq_true_eq]
    omega
  have droppedAfter : after.filter (fun other => other.base ≤ address) = [] := by
    refine List.filter_eq_nil_iff.mpr fun other otherMember => ?_
    have := laterAfter other otherMember
    simp only [decide_eq_true_eq]
    omega
  unfold chunkBelow?
  rw [split, List.filter_append, List.filter_cons, if_pos (by simpa using inside.1), keptBefore,
    droppedAfter, List.getLast?_append]
  simp

end Lookups

end ChunkSource

end HeapKit.Memory
