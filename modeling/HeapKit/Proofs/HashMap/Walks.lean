import Mathlib
import HeapKit.Proofs.HashMap.Table

/-!
# Walks along probe sequences end

A probe sequence in a table of `2 ^ k` slots visits every slot within `13 + 2 ^ k` rounds of
`steps` slots: after thirteen rounds the perturbation is spent and the round hashes follow
`h ↦ 5h + 1`, which runs through every residue modulo `2 ^ k` (`Probing` proves the two facts).
So the walks of a map stop within the bound their fuel gives them whenever the table has an
empty slot: the walk for a key ends at a slot holding an equal key or at an empty slot, and the
search for the first empty slot of a rebuilt table finds one.

`probing_covers_tables` gathers these.
-/

namespace HeapKit

open Prober

namespace Probing

/-- Whole rounds from the start of a probe sequence are perturbations of its start. -/
theorem iterate_advance_start (probing : Probing) (hash : UInt64) (rounds : Nat) :
    advance^[probing.stepsPerRound.toNat * rounds] (probing.start hash) =
      perturb^[rounds] (probing.start hash) := by
  have rounded := iterate_advance_rounds (probing.start hash) (start_offset probing hash)
    (by rw [start_steps]; exact stepsPerRound_pos probing) rounds
  rwa [start_steps] at rounded

/-- From the thirteenth round on the perturbation is spent: the round hash then goes to
`5h + 1`. -/
theorem round_hash_succ (probing : Probing) (hash : UInt64) {rounds : Nat} (spent : 13 ≤ rounds) :
    (advance^[probing.stepsPerRound.toNat * rounds] (probing.start hash)).perturbation = 0 ∧
      (advance^[probing.stepsPerRound.toNat * (rounds + 1)] (probing.start hash)).hash =
        5 * (advance^[probing.stepsPerRound.toNat * rounds] (probing.start hash)).hash + 1 := by
  rw [iterate_advance_start, iterate_advance_start]
  refine ⟨iterate_perturb_perturbation_eq_zero _ spent, ?_⟩
  rw [iterate_perturb_hash_succ, iterate_perturb_perturbation_eq_zero _ (by omega), UInt64.add_zero]

/-- Every slot of a table of `2 ^ k` slots is among the first `(13 + 2 ^ k) * steps` probes. -/
theorem mem_sequence_thirteen (probing : Probing) (hash : UInt64) {k : Nat} (fits : k ≤ 64)
    {mask : UInt64} (masked : mask.toNat = 2 ^ k - 1) {slot : Nat} (below : slot < 2 ^ k) :
    slot ∈ probing.sequence hash mask ((13 + 2 ^ k) * probing.stepsPerRound.toNat) := by
  have visited := mem_sequence_go_of_lt (probing.start hash) (start_offset probing hash)
    (by rw [start_steps]; exact stepsPerRound_pos probing) fits masked below
  rw [start_steps] at visited
  exact sequence_go_mono mask
    (by rw [Nat.mul_comm]; exact Nat.mul_le_mul_right _ (by omega : 12 + 2 ^ k ≤ 13 + 2 ^ k)) _
    visited

end Probing

namespace HashMap

variable {κ ν : Type}

/-- In a table of `2 ^ k` slots, `k ≤ 63`, every slot lies on every walk's probes. -/
theorem mem_probes_of_size (probing : Probing) (hash : UInt64) {slots : Array (Slot κ ν)}
    {k : Nat} (fits : k ≤ 63) (sized : slots.size = 2 ^ k) {mask : UInt64}
    (masked : mask.toNat = 2 ^ k - 1) {slot : Nat} (below : slot < slots.size) :
    slot ∈ probes probing hash slots mask := by
  unfold probes
  rw [sized] at below ⊢
  exact Probing.mem_sequence_bound probing hash (by omega) masked below

/-- The search for the first empty slot of a table of `2 ^ k` slots with an empty slot finds
one. -/
theorem firstEmpty_isSome (probing : Probing) (hash : UInt64) {slots : Array (Slot κ ν)} {k : Nat}
    (fits : k ≤ 63) (sized : slots.size = 2 ^ k) {mask : UInt64} (masked : mask.toNat = 2 ^ k - 1)
    {empty : Nat} (isEmpty : slots[empty]? = some .empty) :
    (firstEmpty slots mask (probing.bound slots.size) (probing.start hash)).isSome := by
  obtain ⟨below, -⟩ := Array.getElem?_eq_some_iff.mp isEmpty
  rw [firstEmpty_eq_find?, List.find?_isSome]
  exact ⟨empty, mem_probes_of_size probing hash fits sized masked below, by simp [emptyAt, isEmpty]⟩

/-- The walk for a key in a table of `2 ^ k` slots with an empty slot stops, at a slot holding an
equal key or at an empty slot. -/
theorem locate_stops (map : HashMap κ ν) (key : κ) {k : Nat} (fits : k ≤ 63)
    (sized : map.slots.size = 2 ^ k) (masked : map.mask.toNat = 2 ^ k - 1) {empty : Nat}
    (isEmpty : map.slots[empty]? = some .empty) :
    ∃ index found, map.locate key = some (index, found) ∧ map.stopAt key index = some (index, found) := by
  obtain ⟨below, -⟩ := Array.getElem?_eq_some_iff.mp isEmpty
  have stops : (map.locate key).isSome := by
    rw [locate_eq_findSome?, List.findSome?_isSome_iff]
    exact ⟨empty, mem_probes_of_size map.probing _ fits sized masked below,
      by simp [stopAt, isEmpty]⟩
  obtain ⟨⟨index, found⟩, located⟩ := Option.isSome_iff_exists.mp stops
  refine ⟨index, found, located, ?_⟩
  rw [locate_eq_findSome?] at located
  obtain ⟨slot, -, stopped⟩ := List.exists_of_findSome?_eq_some located
  -- a walk stops at the slot it is on
  have same : slot = index := by
    unfold stopAt at stopped
    split at stopped
    · cases stopped
      rfl
    · split at stopped
      · cases stopped
        rfl
      · cases stopped
    · cases stopped
  rwa [same] at stopped

end HashMap

/-- Probing visits every slot of a table of `2 ^ k` slots, `k ≤ 63`, within `13 + 2 ^ k` rounds:
from the thirteenth round the perturbation is spent and the round hashes follow `h ↦ 5h + 1`,
whose values run through every residue modulo `2 ^ k`. So in a table with an empty slot the
search for the first empty slot finds one, and the walk for a key stops, at an equal key or at
an empty slot. -/
theorem probing_covers_tables (probing : Probing) (hash : UInt64) {k : Nat} (fits : k ≤ 63)
    {mask : UInt64} (masked : mask.toNat = 2 ^ k - 1) :
    (∀ slot < 2 ^ k,
      slot ∈ probing.sequence hash mask ((13 + 2 ^ k) * probing.stepsPerRound.toNat)) ∧
    (∀ rounds, 13 ≤ rounds →
      (advance^[probing.stepsPerRound.toNat * rounds] (probing.start hash)).perturbation = 0 ∧
      (advance^[probing.stepsPerRound.toNat * (rounds + 1)] (probing.start hash)).hash =
        5 * (advance^[probing.stepsPerRound.toNat * rounds] (probing.start hash)).hash + 1) ∧
    (∀ start residue, residue < 2 ^ k → ∃ rounds < 2 ^ k, quintuple^[rounds] start % 2 ^ k = residue) ∧
    (∀ {κ ν : Type} (slots : Array (Slot κ ν)), slots.size = 2 ^ k →
      (∃ empty : Nat, slots[empty]? = some (Slot.empty : Slot κ ν)) →
      (HashMap.firstEmpty slots mask (probing.bound slots.size) (probing.start hash)).isSome) ∧
    (∀ {κ ν : Type} (map : HashMap κ ν), map.slots.size = 2 ^ k → map.mask = mask →
      (∃ empty : Nat, map.slots[empty]? = some (Slot.empty : Slot κ ν)) → ∀ key,
      ∃ index found, map.locate key = some (index, found) ∧
        map.stopAt key index = some (index, found)) := by
  refine ⟨fun slot below => probing.mem_sequence_thirteen hash (by omega) masked below,
    fun rounds spent => probing.round_hash_succ hash spent,
    fun start residue below => exists_iterate_quintuple_mod_eq k start residue below, ?_, ?_⟩
  · rintro κ ν slots sized ⟨empty, isEmpty⟩
    exact HashMap.firstEmpty_isSome probing hash fits sized masked isEmpty
  · rintro κ ν map sized rfl ⟨empty, isEmpty⟩ key
    exact map.locate_stops key fits sized masked isEmpty

/-- A table of four slots probed three slots a round, pre-shuffled: every slot is among the
first `17 * 3` probes of the hash `12345`. -/
theorem probing_covers_tables_four_slots :
    2 ≤ 63 ∧ (3 : UInt64).toNat = 2 ^ 2 - 1 ∧
      ∀ slot < 2 ^ 2, slot ∈ (⟨3, true⟩ : Probing).sequence 12345 3
        ((13 + 2 ^ 2) * (⟨3, true⟩ : Probing).stepsPerRound.toNat) :=
  ⟨by decide, by decide, (probing_covers_tables ⟨3, true⟩ 12345 (by decide) (by decide)).1⟩

end HeapKit
