import Mathlib
import HeapKit.Request.HashMapScript
import HeapKit.Proofs.HashMap.Table

/-!
# Lawful key equalities

Every hasher a map script can name is lawful (`Request.hasherOf_lawful`). The default hasher of a
key kind compares floats numerically: both float formats compare bit patterns as `FloatEqual`
says, under which NaN equals nothing, not even itself, and the two zeros are equal; that equality
is symmetric and transitive, and the float hashes give both zeros the same hash. Every other key,
and every key under the string hashes, is compared with a lawful `==`.
-/

namespace HeapKit

/-! ### Numeric equality of bit patterns -/

section FloatEquality

variable {β : Type} {nan zero : β → Bool} {a b c : β}

/-- How both float formats compare: NaN equals nothing, the two zeros are equal, and any other
value equals exactly its own bit pattern. -/
def FloatEqual (nan zero : β → Bool) (a b : β) : Prop :=
  nan a = false ∧ nan b = false ∧ (a = b ∨ zero a = true ∧ zero b = true)

theorem FloatEqual.symm (equal : FloatEqual nan zero a b) : FloatEqual nan zero b a := by
  obtain ⟨notNanA, notNanB, same | ⟨zeroA, zeroB⟩⟩ := equal
  · exact ⟨notNanB, notNanA, Or.inl same.symm⟩
  · exact ⟨notNanB, notNanA, Or.inr ⟨zeroB, zeroA⟩⟩

theorem FloatEqual.trans (first : FloatEqual nan zero a b) (second : FloatEqual nan zero b c) :
    FloatEqual nan zero a c := by
  obtain ⟨notNanA, -, sameAB | ⟨zeroA, zeroB⟩⟩ := first <;>
    obtain ⟨-, notNanC, sameBC | ⟨zeroB', zeroC⟩⟩ := second
  · exact ⟨notNanA, notNanC, Or.inl (sameAB.trans sameBC)⟩
  · exact ⟨notNanA, notNanC, Or.inr ⟨sameAB ▸ zeroB', zeroC⟩⟩
  · exact ⟨notNanA, notNanC, Or.inr ⟨zeroA, sameBC ▸ zeroB⟩⟩
  · exact ⟨notNanA, notNanC, Or.inr ⟨zeroA, zeroC⟩⟩

/-- Equal values that hash zeros alike and other values by their bits hash alike. -/
theorem FloatEqual.hash_eq {γ : Type} (hash : β → γ) (zeroHash : γ)
    (hashZero : ∀ x, zero x = true → hash x = zeroHash) (equal : FloatEqual nan zero a b) :
    hash a = hash b := by
  obtain ⟨-, -, same | ⟨zeroA, zeroB⟩⟩ := equal
  · rw [same]
  · rw [hashZero a zeroA, hashZero b zeroB]

end FloatEquality

theorem Binary64.equal_iff {a b : Binary64} :
    a.equal b = true ↔ FloatEqual Binary64.isNaN Binary64.isZero a b := by
  unfold Binary64.equal FloatEqual
  cases a
  cases b
  simp [Binary64.isZero, and_assoc]

theorem Binary32.equal_iff {a b : Binary32} :
    a.equal b = true ↔ FloatEqual Binary32.isNaN Binary32.isZero a b := by
  unfold Binary32.equal FloatEqual
  cases a
  cases b
  simp [Binary32.isZero, and_assoc]

/-! ### Key equality -/

namespace KeyKind

variable (kind : KeyKind) {a b : Key}

theorem equal_float64_left {value : Binary64} :
    kind.equal (.float64 value) b = true ↔ ∃ other, b = .float64 other ∧ value.equal other = true := by
  cases b <;> simp [KeyKind.equal]

theorem equal_float32_left {value : Binary32} :
    kind.equal (.float32 value) b = true ↔ ∃ other, b = .float32 other ∧ value.equal other = true := by
  cases b <;> simp [KeyKind.equal]

/-- Keys other than floats are equal only when they are the same. -/
theorem eq_of_equal_of_not_float (equal : kind.equal a b = true)
    (notFloat64 : ∀ value, a ≠ .float64 value) (notFloat32 : ∀ value, a ≠ .float32 value) :
    a = b := by
  cases a <;> cases b <;> simp_all [KeyKind.equal]

@[simp] theorem hash_float64 (value : Binary64) : kind.hash (.float64 value) = Key.float64Hash value := by
  cases kind <;> rfl

@[simp] theorem hash_float32 (value : Binary32) : kind.hash (.float32 value) = Key.float32Hash value := by
  cases kind <;> rfl

/-- The default hasher of every key kind is lawful: float keys compare numerically, so NaN keys are
equal to nothing and the two zeros are equal and hash alike. -/
theorem lawful : Hasher.Lawful { hash := kind.hash, equal := kind.equal } where
  symm {a b} equal := by
    change kind.equal a b = true at equal
    cases a with
    | float64 value =>
      obtain ⟨other, rfl, equalValues⟩ := (kind.equal_float64_left).mp equal
      exact (kind.equal_float64_left).mpr
        ⟨value, rfl, Binary64.equal_iff.mpr (Binary64.equal_iff.mp equalValues).symm⟩
    | float32 value =>
      obtain ⟨other, rfl, equalValues⟩ := (kind.equal_float32_left).mp equal
      exact (kind.equal_float32_left).mpr
        ⟨value, rfl, Binary32.equal_iff.mpr (Binary32.equal_iff.mp equalValues).symm⟩
    | integer _ | boolean _ | bytes _ =>
      obtain rfl := kind.eq_of_equal_of_not_float equal (by simp) (by simp)
      exact equal
  trans {a b c} first second := by
    change kind.equal a b = true at first
    change kind.equal b c = true at second
    cases a with
    | float64 value =>
      obtain ⟨middle, rfl, firstValues⟩ := (kind.equal_float64_left).mp first
      obtain ⟨last, rfl, secondValues⟩ := (kind.equal_float64_left).mp second
      exact (kind.equal_float64_left).mpr ⟨last, rfl, Binary64.equal_iff.mpr
        ((Binary64.equal_iff.mp firstValues).trans (Binary64.equal_iff.mp secondValues))⟩
    | float32 value =>
      obtain ⟨middle, rfl, firstValues⟩ := (kind.equal_float32_left).mp first
      obtain ⟨last, rfl, secondValues⟩ := (kind.equal_float32_left).mp second
      exact (kind.equal_float32_left).mpr ⟨last, rfl, Binary32.equal_iff.mpr
        ((Binary32.equal_iff.mp firstValues).trans (Binary32.equal_iff.mp secondValues))⟩
    | integer _ | boolean _ | bytes _ =>
      obtain rfl := kind.eq_of_equal_of_not_float first (by simp) (by simp)
      exact second
  hash_eq {a b} equal := by
    change kind.equal a b = true at equal
    cases a with
    | float64 value =>
      obtain ⟨other, rfl, equalValues⟩ := (kind.equal_float64_left).mp equal
      show kind.hash (.float64 value) = kind.hash (.float64 other)
      rw [hash_float64, hash_float64]
      exact (Binary64.equal_iff.mp equalValues).hash_eq Key.float64Hash 0
        fun zero isZero => by simp [Key.float64Hash, isZero]
    | float32 value =>
      obtain ⟨other, rfl, equalValues⟩ := (kind.equal_float32_left).mp equal
      show kind.hash (.float32 value) = kind.hash (.float32 other)
      rw [hash_float32, hash_float32]
      exact (Binary32.equal_iff.mp equalValues).hash_eq Key.float32Hash 0
        fun zero isZero => by simp [Key.float32Hash, isZero]
    | integer _ | boolean _ | bytes _ =>
      obtain rfl := kind.eq_of_equal_of_not_float equal (by simp) (by simp)
      rfl

end KeyKind

/-- A hasher that compares keys by a lawful `==` is lawful. -/
theorem Hasher.lawful_of_lawfulBEq {κ : Type} [BEq κ] [LawfulBEq κ] (hash : κ → UInt64) :
    Hasher.Lawful { hash, equal := (· == ·) } where
  symm equal := by
    rw [beq_iff_eq] at equal ⊢
    exact equal.symm
  trans first second := by
    rw [beq_iff_eq] at first second ⊢
    exact first.trans second
  hash_eq equal := by
    rw [beq_iff_eq] at equal
    rw [equal]

/-- Every hasher a map script can name is lawful. -/
theorem Request.hasherOf_lawful {kind : KeyKind} {name : String} {hasher : Hasher Key}
    (named : Request.hasherOf kind name = .ok hasher) : hasher.Lawful := by
  unfold Request.hasherOf at named
  split at named
  · cases named
    exact kind.lawful
  · cases named
    exact Hasher.lawful_of_lawfulBEq _
  · cases named
    exact Hasher.lawful_of_lawfulBEq _
  · cases named

end HeapKit
