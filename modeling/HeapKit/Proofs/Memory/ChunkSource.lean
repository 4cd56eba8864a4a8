import Mathlib
import HeapKit.Proofs.Memory.Chunks
import HeapKit.Proofs.Memory.Fresh

/-!
# The chunk source's invariant

A chunk source hands out regions carved from its chunks and takes them back. Its invariant is
stated of the source, the space its chunks live in, and the regions it has handed out and not
taken back (`Layout`, and `Sound` on top of it):

* the chunks are in base order and apart, nonempty, carved no further than their size, and taken
  from the space (`Space.Claims`), whose buffers are handed out fresh (`Space.Room`);
* each chunk counts exactly the regions carved from it, and a chunk that counts none has been
  rewound to its start;
* the regions are nonempty, pairwise apart, start on a word boundary within their chunk and end
  at or below its bump offset;
* every byte of a chunk from its bump offset on is zero;
* the current chunk is one of the chunks, and every other chunk still has a region out.

Carving keeps it (`Sound.alloc`), and a carved region reads as zeros when it is handed out; giving
back a region handed out keeps it (`Sound.release`), as does a write inside a region handed out
(`Sound.write`), and giving back bytes that lie in no chunk changes nothing
(`release_of_apart`).
-/

namespace HeapKit.Memory

namespace ChunkSource

/-- A region handed out by a chunk source and not yet given back. -/
structure Carved where
  address : Nat
  length : Nat
  deriving DecidableEq, Repr

/-- Two regions share no byte. -/
def Carved.Apart (first second : Carved) : Prop :=
  first.address + first.length ≤ second.address ∨ second.address + second.length ≤ first.address

theorem Carved.Apart.symm {first second : Carved} (apart : first.Apart second) : second.Apart first :=
  Or.symm apart

/-- The number of regions carved from a chunk: those that start in it. -/
def carvedFrom (chunk : Chunk) (regions : List Carved) : Nat :=
  regions.countP fun region => chunk.contains region.address

/-- A region lies in a chunk below its bump offset, at a word boundary from its base. -/
def Carved.Within (region : Carved) (chunk : Chunk) : Prop :=
  chunk.base ≤ region.address ∧ (region.address - chunk.base) % minimumAlignment = 0 ∧
    region.address + region.length ≤ chunk.base + chunk.offset

/-- How a source lies in its space with the regions it has handed out. -/
structure Layout (source : ChunkSource) (space : Space) (regions : List Carved) : Prop where
  room : space.Room
  positive : 0 < source.chunkSize
  ordered : Ordered source.chunks
  nonempty : ∀ chunk ∈ source.chunks, 0 < chunk.size
  bumped : ∀ chunk ∈ source.chunks, chunk.offset ≤ chunk.size
  claimed : ∀ chunk ∈ source.chunks, space.Claims chunk.base chunk.size
  counted : ∀ chunk ∈ source.chunks, chunk.live = carvedFrom chunk regions
  rewound : ∀ chunk ∈ source.chunks, chunk.live = 0 → chunk.offset = 0
  carved : ∀ region ∈ regions, 0 < region.length ∧ ∃ chunk ∈ source.chunks, region.Within chunk
  apart : regions.Pairwise Carved.Apart
  zero : ∀ chunk ∈ source.chunks, ∀ address, chunk.base + chunk.offset ≤ address →
    address < chunk.base + chunk.size → space.byteAt address = 0

/-- The invariant of a chunk source: its layout, a current chunk among the chunks, and a region
still out in every other chunk. -/
structure Sound (source : ChunkSource) (space : Space) (regions : List Carved) : Prop
    extends Layout source space regions where
  current : ∃ chunk ∈ source.chunks, chunk.base = source.current
  kept : ∀ chunk ∈ source.chunks, chunk.base ≠ source.current → 0 < chunk.live

/-! ### Regions and their chunks -/

theorem Carved.Within.contains {region : Carved} {chunk : Chunk} (within : region.Within chunk)
    (nonempty : 0 < region.length) (bumped : chunk.offset ≤ chunk.size) :
    chunk.contains region.address = true := by
  obtain ⟨after, -, before⟩ := within
  rw [Chunk.contains_iff]
  omega

/-- A region within a chunk shares no byte with a region within another chunk. -/
theorem Carved.Within.apart {region other : Carved} {chunk otherChunk : Chunk}
    (within : region.Within chunk) (otherWithin : other.Within otherChunk)
    (bumped : chunk.offset ≤ chunk.size) (otherBumped : otherChunk.offset ≤ otherChunk.size)
    (chunksApart : chunk.Apart otherChunk) : region.Apart other := by
  obtain ⟨after, -, before⟩ := within
  obtain ⟨otherAfter, -, otherBefore⟩ := otherWithin
  unfold Chunk.Apart at chunksApart
  unfold Carved.Apart
  omega

section Layout

variable {source : ChunkSource} {space : Space} {regions : List Carved}

/-- Every region lies in one chunk of the source, which contains its address. -/
theorem Layout.chunk_of_mem (layout : Layout source space regions) {region : Carved}
    (member : region ∈ regions) :
    ∃ chunk ∈ source.chunks, region.Within chunk ∧ chunk.contains region.address = true := by
  obtain ⟨nonempty, chunk, chunkMember, within⟩ := layout.carved region member
  exact ⟨chunk, chunkMember, within, within.contains nonempty (layout.bumped chunk chunkMember)⟩

/-- A chunk counts no region exactly when it contains no region's address. -/
theorem carvedFrom_eq_zero_iff {chunk : Chunk} :
    carvedFrom chunk regions = 0 ↔ ∀ region ∈ regions, chunk.contains region.address = false := by
  simp [carvedFrom, List.countP_eq_zero]

/-- Giving a region back takes it off the count of the chunk that contains it, and only there. -/
theorem carvedFrom_erase {region : Carved} (member : region ∈ regions) (chunk : Chunk) :
    carvedFrom chunk (regions.erase region) =
      carvedFrom chunk regions - if chunk.contains region.address then 1 else 0 := by
  unfold carvedFrom
  rw [List.countP_erase]
  simp [member]

/-- A chunk of the source that holds a region counts it. -/
theorem Layout.live_pos (layout : Layout source space regions) {region : Carved}
    (member : region ∈ regions) {chunk : Chunk} (chunkMember : chunk ∈ source.chunks)
    (inside : chunk.contains region.address = true) : 0 < chunk.live := by
  rw [layout.counted chunk chunkMember]
  exact_mod_cast List.countP_pos_iff.mpr ⟨region, member, inside⟩

/-- Chunks of the source other than one that contains an address do not contain it. -/
theorem Layout.not_contains (layout : Layout source space regions) {chunk other : Chunk}
    {address : Nat} (member : chunk ∈ source.chunks) (otherMember : other ∈ source.chunks)
    (inside : chunk.contains address = true) (different : other ≠ chunk) :
    other.contains address = false := by
  cases otherInside : other.contains address with
  | false => rfl
  | true => exact absurd (layout.ordered.eq_of_contains otherMember member otherInside inside) different

/-- The layout depends only on the chunks and the chunk size, not on which chunk is current. -/
theorem Layout.congr {other : ChunkSource} (layout : Layout source space regions)
    (sameChunks : other.chunks = source.chunks) (sameSize : other.chunkSize = source.chunkSize) :
    Layout other space regions := by
  obtain ⟨room, positive, ordered, nonempty, bumped, claimed, counted, rewound, carved, apart, zero⟩ :=
    layout
  rw [← sameChunks] at ordered nonempty bumped claimed counted rewound carved zero
  rw [← sameSize] at positive
  exact ⟨room, positive, ordered, nonempty, bumped, claimed, counted, rewound, carved, apart, zero⟩

/-! ### Growing, carving and dropping -/

theorem alignUp_zero : alignUp 0 minimumAlignment = 0 := rfl

/-- A fresh chunk from a reservation, carved nowhere and counting nothing, goes in apart from
every chunk before it. -/
theorem Layout.insertFresh (layout : Layout source space regions) {next : Space} {base size : Nat}
    (reserved : Space.Reserved space next base size) (nonempty : 0 < size) :
    Layout { source with chunks := insertChunk ⟨base, size, 0, 0⟩ source.chunks } next regions ∧
      ∀ chunk ∈ source.chunks, chunk.Apart ⟨base, size, 0, 0⟩ := by
  have apartFresh : ∀ chunk ∈ source.chunks, chunk.Apart ⟨base, size, 0, 0⟩ :=
    fun chunk member => (reserved.keeps chunk.base chunk.size (layout.claimed chunk member)).2
  -- no region lies in the fresh chunk: each lies in an older chunk, apart from it
  have outside : ∀ region ∈ regions, Chunk.contains ⟨base, size, 0, 0⟩ region.address = false := by
    intro region member
    obtain ⟨holder, holderMember, within, _⟩ := layout.chunk_of_mem member
    have apartHolder := apartFresh holder holderMember
    obtain ⟨after, -, before⟩ := within
    have nonemptyRegion := (layout.carved region member).1
    have bumpedHolder := layout.bumped holder holderMember
    unfold Chunk.Apart at apartHolder
    cases inside : Chunk.contains ⟨base, size, 0, 0⟩ region.address with
    | false => rfl
    | true =>
      rw [Chunk.contains_iff] at inside
      simp only at apartHolder inside
      omega
  refine ⟨⟨reserved.room, layout.positive,
    layout.ordered.insertChunk nonempty fun other member => ?_, ?nonempty, ?bumped, ?claimed,
    ?counted, ?rewound, ?carved, layout.apart, ?zero⟩, apartFresh⟩
  · have apartOther := apartFresh other member
    unfold Chunk.Apart at apartOther ⊢
    omega
  case nonempty =>
    intro chunk member
    rcases mem_insertChunk.mp member with rfl | old
    · exact nonempty
    · exact layout.nonempty chunk old
  case bumped =>
    intro chunk member
    rcases mem_insertChunk.mp member with rfl | old
    · exact Nat.zero_le _
    · exact layout.bumped chunk old
  case claimed =>
    intro chunk member
    rcases mem_insertChunk.mp member with rfl | old
    · exact reserved.claims
    · exact (reserved.keeps chunk.base chunk.size (layout.claimed chunk old)).1
  case counted =>
    intro chunk member
    rcases mem_insertChunk.mp member with rfl | old
    · rw [carvedFrom_eq_zero_iff.mpr outside]
      rfl
    · exact layout.counted chunk old
  case rewound =>
    intro chunk member
    rcases mem_insertChunk.mp member with rfl | old
    · exact fun _ => rfl
    · exact layout.rewound chunk old
  case carved =>
    intro region member
    obtain ⟨nonemptyRegion, holder, holderMember, within⟩ := layout.carved region member
    exact ⟨nonemptyRegion, holder, mem_insertChunk.mpr (.inr holderMember), within⟩
  case zero =>
    intro chunk member address after before
    rw [reserved.bytes]
    rcases mem_insertChunk.mp member with rfl | old
    · exact reserved.zero address (by simpa using after) before
    · exact layout.zero chunk old address after before

theorem grow_eq (source : ChunkSource) (least : Nat) (space : Space) :
    source.grow least space =
      (⟨(space.reserveBytes (max source.chunkSize least)).1, max source.chunkSize least, 0, 0⟩,
        { source with
          chunks := insertChunk
            ⟨(space.reserveBytes (max source.chunkSize least)).1, max source.chunkSize least, 0, 0⟩
            source.chunks },
        (space.reserveBytes (max source.chunkSize least)).2) := rfl

/-- Growing adds a fresh chunk, carved nowhere and counting nothing, apart from every chunk
before it. -/
theorem Layout.grow (layout : Layout source space regions) (least : Nat) :
    Layout (source.grow least space).2.1 (source.grow least space).2.2 regions ∧
      ∀ chunk ∈ source.chunks, chunk.Apart (source.grow least space).1 := by
  rw [grow_eq]
  exact layout.insertFresh (layout.room.reserveBytes _) (lt_max_of_lt_left layout.positive)

/-- A chunk after `length` bytes were carved from it. -/
def carvedChunk (chunk : Chunk) (length : Nat) : Chunk :=
  { chunk with offset := alignUp chunk.offset minimumAlignment + length, live := chunk.live + 1 }

theorem carve_eq (source : ChunkSource) (chunk : Chunk) (length : Nat) :
    source.carve chunk length =
      (chunk.base + alignUp chunk.offset minimumAlignment, source.update (carvedChunk chunk length)) :=
  rfl

theorem carvedFrom_append_singleton (chunk : Chunk) (regions : List Carved) (region : Carved) :
    carvedFrom chunk (regions ++ [region]) =
      carvedFrom chunk regions + if chunk.contains region.address then 1 else 0 := by
  simp [carvedFrom, List.countP_append]

/-- Carving `length` bytes from a chunk at its next word boundary counts one more region in it
and keeps the layout; the bytes carved were zero. -/
theorem Layout.carve (layout : Layout source space regions) {chunk : Chunk}
    (member : chunk ∈ source.chunks) {length : Nat} (nonempty : 0 < length)
    (fits : alignUp chunk.offset minimumAlignment + length ≤ chunk.size) :
    Layout (source.carve chunk length).2 space
        (regions ++ [⟨(source.carve chunk length).1, length⟩]) ∧
      (∀ address, (source.carve chunk length).1 ≤ address →
        address < (source.carve chunk length).1 + length → space.byteAt address = 0) := by
  rw [carve_eq]
  dsimp only
  have startAfter := le_alignUp chunk.offset minimumAlignment
  have startAligned := alignUp_mod chunk.offset minimumAlignment (by decide)
  have counted := layout.counted chunk member
  have bumped := layout.bumped chunk member
  -- the carved chunk keeps its place; only its offset and count change
  set start := alignUp chunk.offset minimumAlignment with startEq
  set carved : Chunk := { chunk with offset := start + length, live := chunk.live + 1 } with carvedEq
  have members : ∀ other, other ∈ (source.update carved).chunks ↔
      other = carved ∨ (other ∈ source.chunks ∧ other ≠ chunk) :=
    fun other => mem_update layout.ordered layout.nonempty member rfl
  have carvedMember : carved ∈ (source.update carved).chunks := (members carved).mpr (.inl rfl)
  have inChunk : chunk.contains (chunk.base + start) = true := by
    rw [Chunk.contains_iff]
    omega
  have freshWithin : Carved.Within ⟨chunk.base + start, length⟩ carved :=
    ⟨Nat.le_add_right _ _, by simpa only [carvedEq, Nat.add_sub_cancel_left] using startAligned,
      by simp only [carvedEq]; omega⟩
  -- a region of the carved chunk now lies within it below its new offset
  have carvedWithin : ∀ region : Carved, region.Within chunk → region.Within carved := by
    rintro region ⟨after, aligned, before⟩
    exact ⟨after, aligned, by simp only [carvedEq]; omega⟩
  refine ⟨⟨layout.room, layout.positive, layout.ordered.update layout.nonempty member rfl rfl,
    ?nonempty, ?bumped, ?claimed, ?counted, ?rewound, ?carved, ?apart, ?zero⟩, ?fresh⟩
  case nonempty =>
    intro other otherMember
    rcases (members other).mp otherMember with rfl | ⟨old, -⟩
    · exact layout.nonempty chunk member
    · exact layout.nonempty other old
  case bumped =>
    intro other otherMember
    rcases (members other).mp otherMember with rfl | ⟨old, -⟩
    · exact fits
    · exact layout.bumped other old
  case claimed =>
    intro other otherMember
    rcases (members other).mp otherMember with rfl | ⟨old, -⟩
    · exact layout.claimed chunk member
    · exact layout.claimed other old
  case counted =>
    intro other otherMember
    rw [carvedFrom_append_singleton]
    rcases (members other).mp otherMember with rfl | ⟨old, different⟩
    · show chunk.live + 1 = ((carvedFrom chunk regions + if chunk.contains _ then 1 else 0 : Nat) : Int)
      rw [if_pos inChunk, counted]
      push_cast
      rfl
    · rw [if_neg (by rw [layout.not_contains member old inChunk different]; decide),
        layout.counted other old]
      rfl
  case rewound =>
    intro other otherMember empty
    rcases (members other).mp otherMember with rfl | ⟨old, -⟩
    · simp only [carvedEq] at empty
      omega
    · exact layout.rewound other old empty
  case carved =>
    intro region regionMember
    rcases List.mem_append.mp regionMember with old | fresh
    · obtain ⟨nonemptyRegion, holder, holderMember, within⟩ := layout.carved region old
      by_cases same : holder = chunk
      · subst same
        exact ⟨nonemptyRegion, carved, carvedMember, carvedWithin region within⟩
      · exact ⟨nonemptyRegion, holder, (members holder).mpr (.inr ⟨holderMember, same⟩), within⟩
    · rw [List.mem_singleton] at fresh
      subst fresh
      exact ⟨nonempty, carved, carvedMember, freshWithin⟩
  case apart =>
    refine List.pairwise_append.mpr ⟨layout.apart, List.pairwise_singleton _ _, ?_⟩
    intro region old fresh isFresh
    rw [List.mem_singleton] at isFresh
    subst isFresh
    obtain ⟨_, holder, holderMember, within⟩ := layout.carved region old
    by_cases same : holder = chunk
    · -- regions of the same chunk end at or below its old offset, where the new one starts
      subst same
      obtain ⟨_, _, before⟩ := within
      exact .inl (by dsimp only; omega)
    · have apartChunk : holder.Apart chunk := layout.ordered.apart_of_ne holderMember member same
      exact within.apart freshWithin (layout.bumped holder holderMember) fits apartChunk
  case zero =>
    intro other otherMember address after before
    rcases (members other).mp otherMember with rfl | ⟨old, -⟩
    · exact layout.zero chunk member address (by simp only [carvedEq] at after; omega) before
    · exact layout.zero other old address after before
  case fresh =>
    intro address after before
    exact layout.zero chunk member address (by omega) (by omega)

/-- Replacing a chunk by one over the same bytes, while the regions shrink to `kept` and the space
becomes `next`, keeps the layout: the replacement counts and holds the regions kept in the old
chunk and reads as zeros from its offset on, the chunks stay claimed in the room of `next`, and
`next` keeps every byte outside the chunk. -/
theorem Layout.replace (layout : Layout source space regions) {chunk : Chunk}
    (member : chunk ∈ source.chunks) (replacement : Chunk) (sameBase : replacement.base = chunk.base)
    (sameSize : replacement.size = chunk.size) {kept : List Carved} (sublist : kept.Sublist regions)
    (othersCounted : ∀ other ∈ source.chunks, other ≠ chunk →
      carvedFrom other kept = carvedFrom other regions)
    (counted : replacement.live = carvedFrom chunk kept)
    (bumped : replacement.offset ≤ replacement.size)
    (rewound : replacement.live = 0 → replacement.offset = 0)
    (within : ∀ region ∈ kept, region.Within chunk → region.Within replacement)
    {next : Space} (room : next.Room)
    (claimed : ∀ other ∈ source.chunks, next.Claims other.base other.size)
    (zero : ∀ address, chunk.base + replacement.offset ≤ address → address < chunk.base + chunk.size →
      next.byteAt address = 0)
    (untouched : ∀ address, chunk.contains address = false → next.byteAt address = space.byteAt address) :
    Layout (source.update replacement) next kept := by
  have members : ∀ other, other ∈ (source.update replacement).chunks ↔
      other = replacement ∨ (other ∈ source.chunks ∧ other ≠ chunk) :=
    fun other => mem_update layout.ordered layout.nonempty member sameBase
  have sameCount : carvedFrom replacement kept = carvedFrom chunk kept := by
    unfold carvedFrom Chunk.contains
    rw [sameBase, sameSize]
  refine ⟨room, layout.positive, layout.ordered.update layout.nonempty member sameBase sameSize,
    ?nonempty, ?bumped, ?claimed, ?counted, ?rewound, ?carved, layout.apart.sublist sublist, ?zero⟩
  case nonempty =>
    intro other otherMember
    rcases (members other).mp otherMember with rfl | ⟨old, -⟩
    · rw [sameSize]
      exact layout.nonempty chunk member
    · exact layout.nonempty other old
  case bumped =>
    intro other otherMember
    rcases (members other).mp otherMember with rfl | ⟨old, -⟩
    · exact bumped
    · exact layout.bumped other old
  case claimed =>
    intro other otherMember
    rcases (members other).mp otherMember with rfl | ⟨old, -⟩
    · rw [sameBase, sameSize]
      exact claimed chunk member
    · exact claimed other old
  case counted =>
    intro other otherMember
    rcases (members other).mp otherMember with rfl | ⟨old, different⟩
    · rw [sameCount]
      exact counted
    · rw [othersCounted other old different]
      exact layout.counted other old
  case rewound =>
    intro other otherMember
    rcases (members other).mp otherMember with rfl | ⟨old, -⟩
    · exact rewound
    · exact layout.rewound other old
  case carved =>
    intro region regionMember
    obtain ⟨nonemptyRegion, holder, holderMember, holderWithin⟩ :=
      layout.carved region (sublist.subset regionMember)
    by_cases same : holder = chunk
    · subst same
      exact ⟨nonemptyRegion, replacement, (members _).mpr (.inl rfl),
        within region regionMember holderWithin⟩
    · exact ⟨nonemptyRegion, holder, (members holder).mpr (.inr ⟨holderMember, same⟩), holderWithin⟩
  case zero =>
    intro other otherMember address after before
    rcases (members other).mp otherMember with rfl | ⟨old, different⟩
    · rw [sameBase] at after
      rw [sameBase, sameSize] at before
      exact zero address after before
    · -- a byte of another chunk lies outside the replaced one
      have apart := layout.ordered.apart_of_ne old member different
      have outside : chunk.contains address = false := by
        have bumpedOther := layout.bumped other old
        unfold Chunk.Apart at apart
        simp only [Chunk.contains, Bool.and_eq_false_iff, decide_eq_false_iff_not]
        omega
      rw [untouched address outside]
      exact layout.zero other old address after before

/-- Dropping a chunk keeps the layout when the regions shrink to `kept`, none of which lies in
the dropped chunk, and every other chunk counts as many of them as before. -/
theorem Layout.drop (layout : Layout source space regions) {chunk : Chunk}
    (member : chunk ∈ source.chunks) {kept : List Carved} (sublist : kept.Sublist regions)
    (othersCounted : ∀ other ∈ source.chunks, other ≠ chunk →
      carvedFrom other kept = carvedFrom other regions)
    (outside : ∀ region ∈ kept, chunk.contains region.address = false) :
    Layout (source.drop chunk.base) space kept := by
  have remains : ∀ other ∈ (source.drop chunk.base).chunks, other ∈ source.chunks ∧ other ≠ chunk := by
    intro other otherMember
    obtain ⟨old, otherBase⟩ := mem_drop.mp otherMember
    exact ⟨old, fun same => otherBase (congrArg Chunk.base same)⟩
  refine ⟨layout.room, layout.positive, layout.ordered.drop chunk.base,
    fun other otherMember => layout.nonempty other (remains other otherMember).1,
    fun other otherMember => layout.bumped other (remains other otherMember).1,
    fun other otherMember => layout.claimed other (remains other otherMember).1, ?_,
    fun other otherMember => layout.rewound other (remains other otherMember).1, ?_,
    layout.apart.sublist sublist,
    fun other otherMember => layout.zero other (remains other otherMember).1⟩
  · intro other otherMember
    obtain ⟨old, different⟩ := remains other otherMember
    rw [othersCounted other old different]
    exact layout.counted other old
  · -- a region kept lies in a chunk that contains its address, so not in the dropped one
    intro region regionMember
    obtain ⟨nonemptyRegion, holder, holderMember, within⟩ :=
      layout.carved region (sublist.subset regionMember)
    refine ⟨nonemptyRegion, holder, mem_drop.mpr ⟨holderMember, fun sameBase => ?_⟩, within⟩
    have same := layout.ordered.eq_of_base_eq layout.nonempty holderMember member sameBase
    subst same
    have inside := within.contains nonemptyRegion (layout.bumped holder holderMember)
    rw [outside region regionMember] at inside
    cases inside

theorem mem_grow {least : Nat} {chunk : Chunk} :
    chunk ∈ (source.grow least space).2.1.chunks ↔
      chunk = (source.grow least space).1 ∨ chunk ∈ source.chunks := by
  rw [grow_eq]
  exact mem_insertChunk

/-- The fresh chunk is none of the chunks before it. -/
theorem Layout.fresh_ne (layout : Layout source space regions) (least : Nat) {chunk : Chunk}
    (member : chunk ∈ source.chunks) : chunk ≠ (source.grow least space).1 := by
  rintro rfl
  have apart := (layout.grow least).2 _ member
  have nonempty := layout.nonempty _ member
  unfold Chunk.Apart at apart
  omega

end Layout

/-! ### Carving a region -/

/-- What handing out `length` bytes at `result.1` leaves: the invariant with the region added, and
the region reading as zeros. -/
def Carves (length : Nat) (regions : List Carved) (result : Nat × ChunkSource × Space) : Prop :=
  Sound result.2.1 result.2.2 (regions ++ [⟨result.1, length⟩]) ∧
    ∀ address, result.1 ≤ address → address < result.1 + length → result.2.2.byteAt address = 0

section Carving

variable {source : ChunkSource} {space : Space} {regions : List Carved} {length : Nat}

/-- Carving from the current chunk where the region fits. -/
theorem Sound.carveCurrent (sound : Sound source space regions) {chunk : Chunk}
    (member : chunk ∈ source.chunks) (isCurrent : chunk.base = source.current)
    (nonempty : 0 < length) (fits : alignUp chunk.offset minimumAlignment + length ≤ chunk.size) :
    Carves length regions
      ((source.carve chunk length).1, (source.carve chunk length).2, space) := by
  obtain ⟨layout, zero⟩ := sound.toLayout.carve member nonempty fits
  have members : ∀ other, other ∈ (source.carve chunk length).2.chunks ↔
      other = carvedChunk chunk length ∨ (other ∈ source.chunks ∧ other ≠ chunk) :=
    fun other => mem_update sound.ordered sound.nonempty member rfl
  refine ⟨⟨layout, ⟨_, (members _).mpr (.inl rfl), isCurrent⟩, ?_⟩, zero⟩
  -- the carved chunk is still the current one; every other chunk is as it was
  intro other otherMember notCurrent
  rcases (members other).mp otherMember with rfl | ⟨old, -⟩
  · exact absurd isCurrent notCurrent
  · exact sound.kept other old notCurrent

/-- Growing a fresh chunk, possibly making it current, and carving from it. -/
theorem Layout.growCarve (layout : Layout source space regions) (least : Nat)
    (nonempty : 0 < length) (fits : length ≤ max source.chunkSize least) (into : ChunkSource)
    (sameChunks : into.chunks = (source.grow least space).2.1.chunks)
    (sameSize : into.chunkSize = source.chunkSize) :
    Layout (into.carve (source.grow least space).1 length).2 (source.grow least space).2.2
        (regions ++ [⟨(into.carve (source.grow least space).1 length).1, length⟩]) ∧
      (∀ address, (into.carve (source.grow least space).1 length).1 ≤ address →
        address < (into.carve (source.grow least space).1 length).1 + length →
        (source.grow least space).2.2.byteAt address = 0) ∧
      ∀ chunk, chunk ∈ (into.carve (source.grow least space).1 length).2.chunks ↔
        chunk = carvedChunk (source.grow least space).1 length ∨ chunk ∈ source.chunks := by
  have grown := (layout.grow least).1.congr sameChunks sameSize
  have freshMember : (source.grow least space).1 ∈ into.chunks := by
    rw [sameChunks]
    exact mem_grow.mpr (.inl rfl)
  have freshFits : alignUp (source.grow least space).1.offset minimumAlignment + length ≤
      (source.grow least space).1.size := by
    show alignUp 0 minimumAlignment + length ≤ max source.chunkSize least
    rw [alignUp_zero]
    omega
  obtain ⟨carved, zero⟩ := grown.carve freshMember nonempty freshFits
  refine ⟨carved, zero, fun chunk => ?_⟩
  rw [carve_eq]
  dsimp only
  rw [mem_update grown.ordered grown.nonempty freshMember
    (show (carvedChunk (source.grow least space).1 length).base = _ from rfl), sameChunks, mem_grow]
  -- the fresh chunk is replaced by its carved form; the older chunks stay
  constructor
  · rintro (rfl | ⟨rfl | old, different⟩)
    · exact .inl rfl
    · exact absurd rfl different
    · exact .inr old
  · rintro (rfl | old)
    · exact .inl rfl
    · exact .inr ⟨.inr old, layout.fresh_ne least old⟩

/-- A request larger than the chunk size gets a chunk of its own; the current chunk stays. -/
theorem Sound.carveDedicated (sound : Sound source space regions) (nonempty : 0 < length) :
    let grown := source.grow length space
    Carves length regions
      ((grown.2.1.carve grown.1 length).1, (grown.2.1.carve grown.1 length).2, grown.2.2) := by
  intro grown
  obtain ⟨layout, zero, members⟩ :=
    sound.toLayout.growCarve length nonempty (le_max_right _ _) grown.2.1 rfl rfl
  obtain ⟨current, currentMember, currentBase⟩ := sound.current
  refine ⟨⟨layout, ⟨current, (members current).mpr (.inr currentMember), currentBase⟩, ?_⟩, zero⟩
  intro other otherMember notCurrent
  rcases (members other).mp otherMember with rfl | old
  · show (0 : Int) < 0 + 1
    decide
  · exact sound.kept other old notCurrent

/-- Giving up the current chunk for a fresh one drops it when it counts no region; every chunk
left counts one. -/
theorem Sound.retire (sound : Sound source space regions) {chunk : Chunk}
    (member : chunk ∈ source.chunks) (isCurrent : chunk.base = source.current) :
    Layout (if (chunk.live == 0) = true then source.drop chunk.base else source) space regions ∧
      (if (chunk.live == 0) = true then source.drop chunk.base else source).chunkSize =
        source.chunkSize ∧
      ∀ other ∈ (if (chunk.live == 0) = true then source.drop chunk.base else source).chunks,
        0 < other.live := by
  -- a chunk other than the current one counts a region
  have others : ∀ other ∈ source.chunks, other ≠ chunk → 0 < other.live := by
    intro other otherMember different
    refine sound.kept other otherMember fun sameBase => different ?_
    exact sound.ordered.eq_of_base_eq sound.nonempty otherMember member (sameBase.trans isCurrent.symm)
  split
  · rename_i empty
    have outside : ∀ region ∈ regions, chunk.contains region.address = false := by
      rw [← carvedFrom_eq_zero_iff]
      have counted := sound.counted chunk member
      rw [beq_iff_eq.mp empty] at counted
      omega
    refine ⟨sound.toLayout.drop member (List.Sublist.refl regions) (fun _ _ _ => rfl) outside, rfl,
      fun other otherMember => ?_⟩
    obtain ⟨old, otherBase⟩ := mem_drop.mp otherMember
    exact others other old fun same => otherBase (congrArg Chunk.base same)
  · rename_i notEmpty
    refine ⟨sound.toLayout, rfl, fun other otherMember => ?_⟩
    by_cases same : other = chunk
    · subst same
      have counted := sound.counted other member
      have nonzero : other.live ≠ 0 := fun zero => notEmpty (beq_iff_eq.mpr zero)
      omega
    · exact others other otherMember same

/-- A request that does not fit in the current chunk gets a fresh current chunk, once the chunks
left all count a region. -/
theorem Layout.carveFresh {dropped : ChunkSource} (layout : Layout dropped space regions)
    (kept : ∀ chunk ∈ dropped.chunks, 0 < chunk.live) (nonempty : 0 < length)
    (fits : length ≤ dropped.chunkSize) :
    let grown := dropped.grow dropped.chunkSize space
    let into : ChunkSource := ⟨grown.2.1.chunkSize, grown.2.1.chunks, grown.1.base⟩
    Carves length regions ((into.carve grown.1 length).1, (into.carve grown.1 length).2, grown.2.2) := by
  intro grown into
  obtain ⟨carved, zero, members⟩ :=
    layout.growCarve dropped.chunkSize nonempty (le_max_of_le_left fits) into rfl rfl
  refine ⟨⟨carved, ⟨_, (members _).mpr (.inl rfl), rfl⟩, ?_⟩, zero⟩
  -- the carved fresh chunk is current; the others are those left, which count a region
  intro other otherMember notCurrent
  rcases (members other).mp otherMember with rfl | old
  · exact absurd rfl notCurrent
  · exact kept other old

/-- A carve answers a request of a positive length with its region. -/
theorem Carves.granted {length : Int} {result : Nat × ChunkSource × Space}
    (carves : Carves length.toNat regions result) (positive : 0 < length) :
    Sound result.2.1 result.2.2
        (regions ++ ((some result.1).map fun address => Carved.mk address length.toNat).toList) ∧
      ((some result.1).isSome ↔ 0 < length) ∧
      ∀ address ∈ some result.1, ∀ target, address ≤ target → target < address + length.toNat →
        result.2.2.byteAt target = 0 := by
  obtain ⟨sound, zero⟩ := carves
  refine ⟨sound, by simp [positive], ?_⟩
  intro address member
  rw [Option.mem_some_iff] at member
  subst member
  exact zero

end Carving

/-! ### The source's operations -/

section Operations

variable {source : ChunkSource} {space : Space} {regions : List Carved}

/-- Asking for `length` bytes keeps the invariant with the region handed out added; a positive
length is always granted, with a region that reads as zeros. -/
theorem Sound.alloc (sound : Sound source space regions) (length : Int) :
    Sound (source.alloc length space).2.1 (source.alloc length space).2.2
        (regions ++ ((source.alloc length space).1.map fun address =>
          Carved.mk address length.toNat).toList) ∧
      ((source.alloc length space).1.isSome ↔ 0 < length) ∧
      ∀ address ∈ (source.alloc length space).1, ∀ target, address ≤ target →
        target < address + length.toNat → (source.alloc length space).2.2.byteAt target = 0 := by
  unfold ChunkSource.alloc
  split
  · -- nothing is handed out for a length of zero or less
    rename_i nonpositive
    refine ⟨by simpa using sound, by simpa using nonpositive, by simp⟩
  · rename_i positiveLength
    have positive : 0 < length.toNat := by omega
    dsimp only
    split
    · exact (sound.carveDedicated positive).granted (by omega)
    · rename_i notLarge
      obtain ⟨current, currentMember, currentBase⟩ := sound.current
      have found := chunkAt?_eq_some sound.ordered sound.nonempty currentMember
      rw [currentBase] at found
      split
      · rename_i chunk atCurrent
        rw [found, Option.some.injEq] at atCurrent
        subst atCurrent
        split
        · rename_i fits
          exact (sound.carveCurrent currentMember currentBase positive fits).granted (by omega)
        · obtain ⟨droppedLayout, droppedSize, droppedKept⟩ := sound.retire currentMember currentBase
          exact (droppedLayout.carveFresh droppedKept positive (by rw [droppedSize]; omega)).granted
            (by omega)
      · rename_i missing
        rw [found] at missing
        cases missing

/-- A release of a region handed out takes it off the count of the chunk that holds it, a chunk
no other region lies in. -/
theorem Sound.erase_counted (sound : Sound source space regions) {region : Carved} {holder : Chunk}
    (member : region ∈ regions) (holderMember : holder ∈ source.chunks)
    (inside : holder.contains region.address = true) :
    holder.live - 1 = carvedFrom holder (regions.erase region) ∧
      ∀ other ∈ source.chunks, other ≠ holder →
        carvedFrom other (regions.erase region) = carvedFrom other regions := by
  constructor
  · have positive := sound.live_pos member holderMember inside
    have counted := sound.counted holder holderMember
    rw [carvedFrom_erase member, if_pos inside]
    omega
  · intro other otherMember different
    rw [carvedFrom_erase member,
      if_neg (by rw [sound.not_contains holderMember otherMember inside different]; decide)]
    exact Nat.sub_zero _

/-- A replaced chunk keeps the source sound when it stays at its base and counts a region unless it
is current. -/
theorem Sound.ofReplace (sound : Sound source space regions) {chunk replacement : Chunk}
    (member : chunk ∈ source.chunks) {next : Space} {kept : List Carved}
    (layout : Layout (source.update replacement) next kept) (sameBase : replacement.base = chunk.base)
    (live : replacement.base ≠ source.current → 0 < replacement.live) :
    Sound (source.update replacement) next kept := by
  have members : ∀ other, other ∈ (source.update replacement).chunks ↔
      other = replacement ∨ (other ∈ source.chunks ∧ other ≠ chunk) :=
    fun other => mem_update sound.ordered sound.nonempty member sameBase
  obtain ⟨current, currentMember, currentBase⟩ := sound.current
  refine ⟨layout, ?_, ?_⟩
  · by_cases same : current = chunk
    · subst same
      exact ⟨replacement, (members _).mpr (.inl rfl), sameBase.trans currentBase⟩
    · exact ⟨current, (members current).mpr (.inr ⟨currentMember, same⟩), currentBase⟩
  · intro other otherMember notCurrent
    rcases (members other).mp otherMember with rfl | ⟨old, -⟩
    · exact live notCurrent
    · exact sound.kept other old notCurrent

section Release

variable {region : Carved} {holder : Chunk}

/-- A release that leaves a region in its chunk only lowers the chunk's count. -/
theorem Sound.releaseCounted (sound : Sound source space regions) (holderMember : holder ∈ source.chunks)
    (holderCounted : holder.live - 1 = carvedFrom holder (regions.erase region))
    (othersCounted : ∀ other ∈ source.chunks, other ≠ holder →
      carvedFrom other (regions.erase region) = carvedFrom other regions)
    (positive : 0 < holder.live - 1) :
    Sound (source.update { holder with live := holder.live - 1 }) space (regions.erase region) :=
  sound.ofReplace holderMember
    (sound.toLayout.replace holderMember { holder with live := holder.live - 1 } rfl rfl
      (List.erase_sublist) othersCounted holderCounted (sound.bumped holder holderMember)
      (fun empty => absurd empty positive.ne') (fun _ _ within => within) sound.room sound.claimed
      (sound.zero holder holderMember) fun _ _ => rfl)
    rfl fun _ => positive

/-- A release that empties the current chunk clears its carved bytes and rewinds it. -/
theorem Sound.releaseRewound (sound : Sound source space regions) (holderMember : holder ∈ source.chunks)
    (holderCounted : holder.live - 1 = carvedFrom holder (regions.erase region))
    (othersCounted : ∀ other ∈ source.chunks, other ≠ holder →
      carvedFrom other (regions.erase region) = carvedFrom other regions)
    (emptied : ¬ 0 < holder.live - 1) (isCurrent : holder.base = source.current) :
    Sound (source.update { holder with offset := 0, live := holder.live - 1 })
      (space.fill holder.base holder.offset 0) (regions.erase region) := by
  have bumped := sound.bumped holder holderMember
  obtain ⟨held, -, outsideShared⟩ := sound.claimed holder holderMember
  -- no region is left in the chunk
  have none : ∀ kept ∈ regions.erase region, holder.contains kept.address = false :=
    carvedFrom_eq_zero_iff.mp (by omega)
  have heldCarved : space.holds holder.base holder.offset = true :=
    Space.holds_of_within held le_rfl (by omega)
  have filled : ∀ address, (space.fill holder.base holder.offset 0).byteAt address =
      if holder.base ≤ address ∧ address < holder.base + holder.offset then 0
      else space.byteAt address := by
    intro address
    rw [sound.room.apart.byteAt_fill]
    simp only [heldCarved, true_and]
  refine sound.ofReplace holderMember
    (sound.toLayout.replace holderMember { holder with offset := 0, live := holder.live - 1 } rfl rfl
      (List.erase_sublist) othersCounted holderCounted (Nat.zero_le _) (fun _ => rfl) ?within ?room
      ?claimed ?zero ?untouched)
    rfl fun notCurrent => absurd isCurrent notCurrent
  case within =>
    intro kept keptMember keptWithin
    have nonemptyKept := (sound.carved kept (List.mem_of_mem_erase keptMember)).1
    have inside := keptWithin.contains nonemptyKept bumped
    rw [none kept keptMember] at inside
    cases inside
  case room =>
    refine sound.room.write holder.base (List.replicate holder.offset 0) ?_
    rw [List.length_replicate]
    omega
  case claimed =>
    exact fun other otherMember => (sound.claimed other otherMember).write _ _
  case zero =>
    intro address _ before
    rw [filled]
    split
    · rfl
    · exact sound.zero holder holderMember address (by omega) before
  case untouched =>
    intro address outside
    rw [filled, if_neg]
    simp only [Chunk.contains, Bool.and_eq_false_iff, decide_eq_false_iff_not] at outside
    omega

/-- A release that empties a chunk other than the current one drops it. -/
theorem Sound.releaseDropped (sound : Sound source space regions) (holderMember : holder ∈ source.chunks)
    (holderCounted : holder.live - 1 = carvedFrom holder (regions.erase region))
    (othersCounted : ∀ other ∈ source.chunks, other ≠ holder →
      carvedFrom other (regions.erase region) = carvedFrom other regions)
    (emptied : ¬ 0 < holder.live - 1) (notCurrent : holder.base ≠ source.current) :
    Sound (source.drop holder.base) space (regions.erase region) := by
  have none : ∀ kept ∈ regions.erase region, holder.contains kept.address = false :=
    carvedFrom_eq_zero_iff.mp (by omega)
  obtain ⟨current, currentMember, currentBase⟩ := sound.current
  refine ⟨sound.toLayout.drop holderMember (List.erase_sublist) othersCounted none,
    ⟨current, mem_drop.mpr ⟨currentMember, fun sameBase => notCurrent ?_⟩, currentBase⟩, ?_⟩
  · rw [← sameBase, currentBase]
  · intro other otherMember otherNotCurrent
    exact sound.kept other (mem_drop.mp otherMember).1 otherNotCurrent

end Release

/-- Giving back a region handed out keeps the invariant with the region taken off. -/
theorem Sound.release (sound : Sound source space regions) {region : Carved} (member : region ∈ regions) :
    Sound (source.release region.address region.length space).1
      (source.release region.address region.length space).2 (regions.erase region) := by
  obtain ⟨holder, holderMember, -, inside⟩ := sound.chunk_of_mem member
  have nonemptyRegion := (sound.carved region member).1
  have found := chunkBelow?_eq_some sound.ordered holderMember inside
  obtain ⟨holderCounted, othersCounted⟩ := sound.erase_counted member holderMember inside
  unfold ChunkSource.release
  rw [if_neg (by omega)]
  split
  · rename_i missing
    rw [found] at missing
    cases missing
  · rename_i chunk atAddress
    rw [found, Option.some.injEq] at atAddress
    subst atAddress
    rw [Chunk.contains_iff] at inside
    rw [if_neg (by omega)]
    dsimp only
    -- the chunk still counts a region, or it is emptied and then rewound if current, else dropped
    split
    · exact sound.releaseCounted holderMember holderCounted othersCounted (by assumption)
    · rename_i emptied
      split
      · rename_i isCurrent
        exact sound.releaseRewound holderMember holderCounted othersCounted emptied
          (beq_iff_eq.mp isCurrent)
      · rename_i notCurrent
        exact sound.releaseDropped holderMember holderCounted othersCounted emptied
          fun isCurrent => notCurrent (beq_iff_eq.mpr isCurrent)

/-- A write inside a region handed out keeps the invariant. -/
theorem Sound.write (sound : Sound source space regions) {region : Carved} (member : region ∈ regions)
    {address : Nat} {bytes : List UInt8} (after : region.address ≤ address)
    (before : address + bytes.length ≤ region.address + region.length) :
    Sound source (space.write address bytes) regions := by
  obtain ⟨holder, holderMember, ⟨regionAfter, -, regionBefore⟩, -⟩ := sound.chunk_of_mem member
  obtain ⟨-, -, outsideShared⟩ := sound.claimed holder holderMember
  have bumped := sound.bumped holder holderMember
  refine ⟨⟨sound.room.write address bytes (by omega), sound.positive, sound.ordered, sound.nonempty,
    sound.bumped, fun chunk chunkMember => (sound.claimed chunk chunkMember).write address bytes,
    sound.counted, sound.rewound, sound.carved, sound.apart, ?_⟩, sound.current, sound.kept⟩
  -- the write lies below the holder's offset, apart from every chunk's bytes from its offset on
  intro chunk chunkMember target targetAfter targetBefore
  rw [sound.room.apart.byteAt_write, if_neg]
  · exact sound.zero chunk chunkMember target targetAfter targetBefore
  · rintro ⟨-, writeAfter, writeBefore⟩
    by_cases same : chunk = holder
    · subst same
      omega
    · have apart := sound.ordered.apart_of_ne chunkMember holderMember same
      unfold Chunk.Apart at apart
      omega

/-! ### Runs -/

end Operations

/-- The states a chunk source passes through, with the regions it has handed out and not taken
back: it is created in a space, then hands out regions, takes back a region it handed out or bytes
outside every chunk, and sees writes inside the regions it handed out. -/
inductive Reaches (chunkSize : Int) (initial : Space) : ChunkSource → Space → List Carved → Prop
  | start : Reaches chunkSize initial (ChunkSource.create chunkSize initial).1
      (ChunkSource.create chunkSize initial).2 []
  | alloc {source : ChunkSource} {space : Space} {regions : List Carved} (length : Int) :
      Reaches chunkSize initial source space regions →
      Reaches chunkSize initial (source.alloc length space).2.1 (source.alloc length space).2.2
        (regions ++ ((source.alloc length space).1.map fun address =>
          Carved.mk address length.toNat).toList)
  | release {source : ChunkSource} {space : Space} {regions : List Carved} {region : Carved} :
      Reaches chunkSize initial source space regions → region ∈ regions →
      Reaches chunkSize initial (source.release region.address region.length space).1
        (source.release region.address region.length space).2 (regions.erase region)
  | releaseForeign {source : ChunkSource} {space : Space} {regions : List Carved}
      (address length : Nat) :
      Reaches chunkSize initial source space regions →
      (∀ chunk ∈ source.chunks, address + length ≤ chunk.base ∨ chunk.base + chunk.size ≤ address) →
      Reaches chunkSize initial (source.release address length space).1
        (source.release address length space).2 regions
  | write {source : ChunkSource} {space : Space} {regions : List Carved} {region : Carved}
      (address : Nat) (bytes : List UInt8) :
      Reaches chunkSize initial source space regions → region ∈ regions →
      region.address ≤ address → address + bytes.length ≤ region.address + region.length →
      Reaches chunkSize initial source (space.write address bytes) regions

end ChunkSource

end HeapKit.Memory
