import Mathlib
import HeapKit.Container.HashMap.Probe

/-!
# Probe sequences visit every slot

A probe sequence visits `steps` consecutive slots per round and perturbs the
round's hash between rounds. The perturbation loses five bits a round, so after
thirteen rounds it is spent and the round hashes follow `h ↦ 5h + 1` modulo
2^64. Modulo a power of two `2 ^ k` that map is a single cycle through all
residues: `4h + 1` is multiplied by five in each round, and five has order
`2 ^ k` modulo `2 ^ (k + 2)`. The first slot of each round is the round hash
under the mask, so within `12 + 2 ^ k` rounds every slot of a table of `2 ^ k`
slots is visited.

`mem_sequence_bound` gives the form the map's walks use: every slot lies among
the first `bound` positions of every probe sequence.
-/

namespace HeapKit

/-! ### The affine map `h ↦ 5h + 1` modulo a power of two -/

/-- `2 ^ (k + 2)` divides `5 ^ d - 1` only when `2 ^ k` divides `d`: the order of
five modulo `2 ^ (k + 2)` is `2 ^ k`. -/
theorem two_pow_dvd_of_two_pow_dvd_five_pow_sub_one (k d : ℕ)
    (divides : (2 : ℤ) ^ (k + 2) ∣ 5 ^ d - 1) : 2 ^ k ∣ d := by
  have lifting := Int.two_pow_sub_pow' (x := 5) (y := 1) d (by norm_num) (by norm_num)
  rw [one_pow] at lifting
  have four : emultiplicity (2 : ℤ) (5 - 1) = 2 := by
    rw [show (5 : ℤ) - 1 = 2 ^ 2 by norm_num]
    exact emultiplicity_pow_self (by norm_num) (by simp [Int.isUnit_iff]) 2
  rw [pow_dvd_iff_le_emultiplicity, lifting, four] at divides
  have bound : (k : ℕ∞) ≤ emultiplicity (2 : ℤ) (d : ℤ) := by
    push_cast at divides
    rw [add_comm] at divides
    exact (ENat.add_le_add_iff_left (by simp)).mp divides
  rw [← pow_dvd_iff_le_emultiplicity] at bound
  exact_mod_cast bound

/-- The affine map that the round hashes follow once the perturbation is spent. -/
def quintuple (value : ℕ) : ℕ := 5 * value + 1

theorem four_mul_iterate_quintuple (start rounds : ℕ) :
    4 * quintuple^[rounds] start + 1 = 5 ^ rounds * (4 * start + 1) := by
  induction rounds with
  | zero => simp
  | succ rounds inductionHypothesis =>
    rw [Function.iterate_succ_apply', quintuple, pow_succ]
    linear_combination 5 * inductionHypothesis

/-- Modulo `2 ^ k`, two of the first `2 ^ k` values of the affine map differ. -/
theorem iterate_quintuple_mod_ne (k start first gap : ℕ) (bound : first + gap + 1 < 2 ^ k) :
    quintuple^[first] start % 2 ^ k ≠ quintuple^[first + gap + 1] start % 2 ^ k := by
  intro same
  have congruent : (2 : ℤ) ^ k ∣ quintuple^[first + gap + 1] start - quintuple^[first] start :=
    Nat.ModEq.dvd same
  have scaled : (2 : ℤ) ^ (k + 2) ∣
      (5 : ℤ) ^ first * (4 * start + 1) * (5 ^ (gap + 1) - 1) := by
    have before := congrArg (fun value : ℕ => (value : ℤ)) (four_mul_iterate_quintuple start first)
    have after := congrArg (fun value : ℕ => (value : ℤ))
      (four_mul_iterate_quintuple start (first + gap + 1))
    push_cast at before after
    have difference : (5 : ℤ) ^ first * (4 * start + 1) * (5 ^ (gap + 1) - 1) =
        4 * ((quintuple^[first + gap + 1] start : ℤ) - quintuple^[first] start) := by
      rw [pow_add, pow_add] at after
      linear_combination before - after
    rw [difference, pow_add, mul_comm]
    exact mul_dvd_mul (by norm_num) congruent
  have coprime : IsCoprime ((2 : ℤ) ^ (k + 2)) ((5 : ℤ) ^ first * (4 * start + 1)) := by
    apply IsCoprime.pow_left
    rw [Int.isCoprime_two_left]
    exact (Odd.pow (by decide)).mul ⟨2 * start, by ring⟩
  have divides := two_pow_dvd_of_two_pow_dvd_five_pow_sub_one k (gap + 1)
    (coprime.dvd_of_dvd_mul_left scaled)
  have := Nat.le_of_dvd (by omega) divides
  omega

/-- Modulo `2 ^ k`, the first `2 ^ k` values of the affine map are distinct. -/
theorem iterate_quintuple_mod_injOn (k start : ℕ) :
    Set.InjOn (fun rounds => quintuple^[rounds] start % 2 ^ k) (Set.Iio (2 ^ k)) := by
  intro first firstBound second secondBound same
  simp only [Set.mem_Iio] at firstBound secondBound
  rcases lt_trichotomy first second with ordered | equal | ordered
  · obtain ⟨gap, rfl⟩ := Nat.exists_eq_add_of_lt ordered
    exact absurd same (iterate_quintuple_mod_ne k start first gap secondBound)
  · exact equal
  · obtain ⟨gap, rfl⟩ := Nat.exists_eq_add_of_lt ordered
    exact absurd same.symm (iterate_quintuple_mod_ne k start second gap firstBound)

/-- Modulo `2 ^ k`, the first `2 ^ k` values of the affine map run through every residue. -/
theorem exists_iterate_quintuple_mod_eq (k start residue : ℕ) (below : residue < 2 ^ k) :
    ∃ rounds < 2 ^ k, quintuple^[rounds] start % 2 ^ k = residue := by
  have surjective := Finset.surj_on_of_inj_on_of_card_le
    (s := Finset.range (2 ^ k)) (t := Finset.range (2 ^ k))
    (fun rounds _ => quintuple^[rounds] start % 2 ^ k)
    (fun rounds _ => Finset.mem_range.mpr (Nat.mod_lt _ (by positivity)))
    (fun first second firstMember secondMember same =>
      iterate_quintuple_mod_injOn k start (by simpa using firstMember)
        (by simpa using secondMember) same)
    le_rfl residue (Finset.mem_range.mpr below)
  obtain ⟨rounds, member, equal⟩ := surjective
  exact ⟨rounds, Finset.mem_range.mp member, equal.symm⟩

/-! ### Rounds of a probe sequence -/

namespace Prober

/-- The position after the current one. -/
def advance (prober : Prober) : Prober :=
  if prober.offset + 1 == prober.steps then { prober with offset := 0 }.perturb
  else { prober with offset := prober.offset + 1 }

theorem next_eq (prober : Prober) (mask : UInt64) :
    prober.next mask = (((prober.hash + prober.offset) &&& mask).toNat, prober.advance) := by
  by_cases last : (prober.offset + 1 == prober.steps) = true <;> simp [next, advance, last]

@[simp] theorem perturb_steps (prober : Prober) : prober.perturb.steps = prober.steps := rfl

@[simp] theorem perturb_offset (prober : Prober) : prober.perturb.offset = prober.offset := rfl

@[simp] theorem iterate_perturb_steps (prober : Prober) (rounds : Nat) :
    (perturb^[rounds] prober).steps = prober.steps := by
  induction rounds generalizing prober with
  | zero => rfl
  | succ rounds inductionHypothesis =>
    rw [Function.iterate_succ_apply, inductionHypothesis, perturb_steps]

@[simp] theorem iterate_perturb_offset (prober : Prober) (rounds : Nat) :
    (perturb^[rounds] prober).offset = prober.offset := by
  induction rounds generalizing prober with
  | zero => rfl
  | succ rounds inductionHypothesis =>
    rw [Function.iterate_succ_apply, inductionHypothesis, perturb_offset]

/-- Within a round the position moves one slot along. -/
theorem iterate_advance_of_lt (prober : Prober) (start : prober.offset = 0) (count : Nat)
    (within : count < prober.steps.toNat) :
    advance^[count] prober = { prober with offset := UInt64.ofNat count } := by
  induction count with
  | zero =>
    cases prober
    simp_all
  | succ count inductionHypothesis =>
    rw [Function.iterate_succ_apply', inductionHypothesis (by omega)]
    have different : ¬(UInt64.ofNat count + 1 == prober.steps) = true := by
      simp only [beq_iff_eq]
      intro equal
      have := congrArg UInt64.toNat equal
      rw [UInt64.toNat_add, UInt64.toNat_ofNat', UInt64.toNat_one] at this
      have small : count + 1 < 2 ^ 64 := by have := prober.steps.toNat_lt; omega
      rw [Nat.mod_eq_of_lt (by omega : count < 2 ^ 64), Nat.mod_eq_of_lt small] at this
      omega
    rw [advance, if_neg different, UInt64.ofNat_add, UInt64.ofNat_one]

/-- A whole round ends with a perturbation. -/
theorem iterate_advance_steps (prober : Prober) (start : prober.offset = 0)
    (positive : 0 < prober.steps.toNat) :
    advance^[prober.steps.toNat] prober = prober.perturb := by
  obtain ⟨count, counted⟩ : ∃ count, prober.steps.toNat = count + 1 :=
    ⟨prober.steps.toNat - 1, by omega⟩
  rw [counted, Function.iterate_succ_apply', iterate_advance_of_lt prober start count (by omega)]
  have last : (UInt64.ofNat count + 1 == prober.steps) = true := by
    rw [beq_iff_eq, ← UInt64.ofNat_one, ← UInt64.ofNat_add, ← counted, UInt64.ofNat_toNat]
  rw [advance, if_pos last]
  cases prober
  simp_all

/-- Whole rounds are perturbations. -/
theorem iterate_advance_rounds (prober : Prober) (start : prober.offset = 0)
    (positive : 0 < prober.steps.toNat) (rounds : Nat) :
    advance^[prober.steps.toNat * rounds] prober = perturb^[rounds] prober := by
  induction rounds with
  | zero => rfl
  | succ rounds inductionHypothesis =>
    rw [Nat.mul_succ, Nat.add_comm, Function.iterate_add_apply, inductionHypothesis,
      Function.iterate_succ_apply']
    have := iterate_advance_steps (perturb^[rounds] prober)
      (by rw [iterate_perturb_offset, start]) (by rw [iterate_perturb_steps]; exact positive)
    rw [iterate_perturb_steps] at this
    exact this


theorem iterate_perturb_perturbation (prober : Prober) (rounds : ℕ) :
    (perturb^[rounds] prober).perturbation.toNat = prober.perturbation.toNat / 32 ^ rounds := by
  induction rounds with
  | zero => simp
  | succ rounds inductionHypothesis =>
    rw [Function.iterate_succ_apply', perturb]
    simp only [UInt64.toNat_shiftRight, inductionHypothesis]
    rw [show (5 : UInt64).toNat % 64 = 5 from rfl, Nat.shiftRight_eq_div_pow, Nat.div_div_eq_div_mul,
      pow_succ 32]

/-- Thirteen rounds shift every bit out of the perturbation. -/
theorem iterate_perturb_perturbation_eq_zero (prober : Prober) {rounds : ℕ}
    (spent : 13 ≤ rounds) : (perturb^[rounds] prober).perturbation = 0 := by
  apply UInt64.toNat_inj.mp
  rw [iterate_perturb_perturbation, UInt64.toNat_zero, Nat.div_eq_zero_iff_lt (by positivity)]
  calc prober.perturbation.toNat < 2 ^ 64 := prober.perturbation.toNat_lt
    _ ≤ 32 ^ 13 := by norm_num
    _ ≤ 32 ^ rounds := Nat.pow_le_pow_right (by norm_num) spent

theorem iterate_perturb_hash_succ (prober : Prober) (rounds : ℕ) :
    (perturb^[rounds + 1] prober).hash =
      5 * (perturb^[rounds] prober).hash + 1 + (perturb^[rounds + 1] prober).perturbation := by
  rw [Function.iterate_succ_apply']
  rfl

/-- From the twelfth round on, the round hashes follow `quintuple` modulo every power of two
that divides the word size. -/
theorem iterate_perturb_hash_mod (prober : Prober) {k : ℕ} (fits : k ≤ 64) (rounds : ℕ) :
    (perturb^[12 + rounds] prober).hash.toNat % 2 ^ k =
      quintuple^[rounds] (perturb^[12] prober).hash.toNat % 2 ^ k := by
  induction rounds with
  | zero => rfl
  | succ rounds inductionHypothesis =>
    rw [← Nat.add_assoc, iterate_perturb_hash_succ,
      iterate_perturb_perturbation_eq_zero prober (by omega), Function.iterate_succ_apply',
      quintuple, UInt64.add_zero, UInt64.toNat_add, UInt64.toNat_mul, UInt64.toNat_one,
      show (5 : UInt64).toNat = 5 from rfl]
    have divides : 2 ^ k ∣ 2 ^ 64 := Nat.pow_dvd_pow 2 fits
    rw [Nat.mod_mod_of_dvd _ divides, Nat.add_mod, Nat.mod_mod_of_dvd _ divides, Nat.mul_mod,
      inductionHypothesis, ← Nat.mul_mod, ← Nat.add_mod]

end Prober

namespace Probing

open Prober

theorem sequence_go_zero (mask : UInt64) (prober : Prober) : sequence.go mask 0 prober = [] := rfl

theorem sequence_go_succ (mask : UInt64) (count : Nat) (prober : Prober) :
    sequence.go mask (count + 1) prober =
      ((prober.hash + prober.offset) &&& mask).toNat :: sequence.go mask count prober.advance := by
  simp only [sequence.go, next_eq]

theorem sequence_go_add (mask : UInt64) (first second : Nat) (prober : Prober) :
    sequence.go mask (first + second) prober =
      sequence.go mask first prober ++ sequence.go mask second (advance^[first] prober) := by
  induction first generalizing prober with
  | zero => simp [sequence_go_zero]
  | succ first inductionHypothesis =>
    rw [Nat.add_right_comm, sequence_go_succ, sequence_go_succ, inductionHypothesis,
      Function.iterate_succ_apply, List.cons_append]

/-- A longer walk sees everything a shorter one sees. -/
theorem sequence_go_mono (mask : UInt64) {shorter longer : Nat} (le : shorter ≤ longer)
    (prober : Prober) {slot : Nat} (member : slot ∈ sequence.go mask shorter prober) :
    slot ∈ sequence.go mask longer prober := by
  obtain ⟨extra, rfl⟩ := Nat.exists_eq_add_of_le le
  rw [sequence_go_add]
  exact List.mem_append_left _ member

/-- The first slot of every round is the round's hash under the mask. -/
theorem roundStart_mem (mask : UInt64) (prober : Prober) (start : prober.offset = 0)
    (positive : 0 < prober.steps.toNat) (rounds : Nat) :
    ((perturb^[rounds] prober).hash &&& mask).toNat ∈
      sequence.go mask (prober.steps.toNat * (rounds + 1)) prober := by
  rw [Nat.mul_succ, sequence_go_add, iterate_advance_rounds prober start positive]
  obtain ⟨count, counted⟩ : ∃ count, prober.steps.toNat = count + 1 :=
    ⟨prober.steps.toNat - 1, by omega⟩
  rw [counted, sequence_go_succ, iterate_perturb_offset, start, UInt64.add_zero]
  exact List.mem_append_right _ List.mem_cons_self

/-- Within `12 + 2 ^ k` rounds, a probe sequence in a table of `2 ^ k` slots visits every
slot: after twelve rounds the perturbation is spent, and the next `2 ^ k` round starts are
`2 ^ k` distinct residues. -/
theorem mem_sequence_go_of_lt (prober : Prober) (start : prober.offset = 0)
    (positive : 0 < prober.steps.toNat) {k : ℕ} (fits : k ≤ 64) {mask : UInt64}
    (masked : mask.toNat = 2 ^ k - 1) {slot : ℕ} (below : slot < 2 ^ k) :
    slot ∈ sequence.go mask (prober.steps.toNat * (12 + 2 ^ k)) prober := by
  obtain ⟨rounds, bound, hits⟩ :=
    exists_iterate_quintuple_mod_eq k (perturb^[12] prober).hash.toNat slot below
  have visited := roundStart_mem mask prober start positive (12 + rounds)
  rw [UInt64.toNat_and, masked, Nat.and_two_pow_sub_one_eq_mod,
    iterate_perturb_hash_mod prober fits, hits] at visited
  exact sequence_go_mono mask (Nat.mul_le_mul_left _ (by omega)) prober visited

theorem stepsPerRound_pos (probing : Probing) : 0 < probing.stepsPerRound.toNat := by
  have atLeastOne : (1 : Int64) ≤ max probing.linearSteps 1 := by
    change 1 ≤ if probing.linearSteps ≤ 1 then 1 else probing.linearSteps
    split
    · exact Int64.le_refl 1
    · exact Int64.le_of_lt (Int64.not_le.mp ‹_›)
  unfold stepsPerRound
  rw [Int64.toNat_toUInt64_of_le (Int64.le_trans (by decide) atLeastOne), ← Int64.toNat_toInt]
  rw [Int64.le_iff_toInt_le] at atLeastOne
  have one : (1 : Int64).toInt = 1 := rfl
  omega

@[simp] theorem start_offset (probing : Probing) (hash : UInt64) :
    (probing.start hash).offset = 0 := by
  unfold start
  split <;> rfl

@[simp] theorem start_steps (probing : Probing) (hash : UInt64) :
    (probing.start hash).steps = probing.stepsPerRound := by
  unfold start
  split <;> rfl

/-- Every slot of a table of `2 ^ k` slots lies among the first `bound` positions of every
probe sequence. -/
theorem mem_sequence_bound (probing : Probing) (hash : UInt64) {k : ℕ} (fits : k ≤ 64)
    {mask : UInt64} (masked : mask.toNat = 2 ^ k - 1) {slot : ℕ} (below : slot < 2 ^ k) :
    slot ∈ probing.sequence hash mask (probing.bound (2 ^ k)) := by
  have positive := stepsPerRound_pos probing
  have visited := mem_sequence_go_of_lt (probing.start hash) (start_offset probing hash)
    (by rw [start_steps]; exact positive) fits masked below
  rw [start_steps] at visited
  apply sequence_go_mono mask _ _ visited
  unfold bound
  nlinarith

end Probing

end HeapKit
