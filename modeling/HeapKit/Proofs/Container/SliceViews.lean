import Mathlib
import HeapKit.Container.StringRef
import HeapKit.Proofs.Container.IndexInterval

/-!
# Trimming and slicing views

A trim of a span takes its count clamped to `[0, length]` and never fails: taking and dropping
the same count at either end cut the span into a part of the clamped count and the rest. A slice
of a span that lies inside it gives the elements at the positions of its interval. A part of a
string view from a start inside it, of a size whose end `start + size` is a word, is the bytes
from the start up to that end or the view's end, whichever comes first; dropping a prefix or a
suffix within the length leaves the last or the first bytes.

Lengths of views are words, as the lengths of the language's sequences are: a slice and a dropped
suffix compute their ends from the length in words.

The end of a part of a string view is a word sum, so a size close to the largest word wraps it
below zero and the part fails, although its start lies inside the view
(`substr_of_wrapped_end`).

`trims_and_slices` gathers these.
-/

namespace HeapKit

namespace Span

variable {α : Type}

/-- A trim takes its count clamped to `[0, length]`. -/
theorem clamp_eq (span : Span α) (count : Int64) :
    (span.clamp count : Int) = min (max count.toInt 0) span.length := by
  unfold clamp
  split <;> omega

theorem clamp_le (span : Span α) (count : Int64) : span.clamp count ≤ span.length := by
  have := span.clamp_eq count
  omega

@[simp] theorem length_takeFront (span : Span α) (count : Int64) :
    (span.takeFront count).length = span.clamp count := by
  have := span.clamp_le count
  simp only [takeFront, length, List.length_take] at this ⊢
  omega

@[simp] theorem length_dropFront (span : Span α) (count : Int64) :
    (span.dropFront count).length = span.length - span.clamp count := by
  simp [dropFront, length]

@[simp] theorem length_dropBack (span : Span α) (count : Int64) :
    (span.dropBack count).length = span.length - span.clamp count := by
  simp [dropBack, length]

@[simp] theorem length_takeBack (span : Span α) (count : Int64) :
    (span.takeBack count).length = span.clamp count := by
  have := span.clamp_le count
  simp only [takeBack, length, List.length_drop] at this ⊢
  omega

end Span

namespace StringRef

/-- A part of a view from a start inside it, of a size whose end is a word, is the bytes from
the start up to that end or the view's end. -/
theorem substr_eq_extract (view : StringRef) {start size : Int64} (startNonneg : 0 ≤ start.toInt)
    (inside : start.toInt ≤ view.length) (sizeNonneg : 0 ≤ size.toInt)
    (fits : start.toInt + size.toInt ≤ Int64.maxValue.toInt) :
    view.substr start size =
      .ok ⟨view.bytes.extract start.toInt.toNat (min (start.toInt + size.toInt) view.length).toNat⟩ := by
  have finish : (start + size).toInt = start.toInt + size.toInt :=
    IndexRange.toInt_add_exact (by omega) fits
  have checked : Bounds.fixedPart start.toInt (min (start + size).toInt view.length) view.length =
      .ok () := by
    unfold Bounds.fixedPart Bounds.within
    rw [finish, if_neg (by simp; omega), if_neg (by simp; omega)]
  rw [substr, checked, finish, List.extract_eq_take_drop, ← List.drop_take]
  rfl

/-- Dropping a prefix within the length leaves the last bytes. -/
theorem dropPrefix_eq_rtake (view : StringRef) {count : Int64} (countNonneg : 0 ≤ count.toInt)
    (within : count.toInt ≤ view.length) :
    view.dropPrefix count = .ok ⟨view.bytes.rtake (view.length - count.toInt.toNat)⟩ := by
  have checked : Bounds.fixedPart count.toInt view.length view.length = .ok () := by
    unfold Bounds.fixedPart Bounds.within
    rw [if_neg (by simp), if_neg (by simp; omega)]
  have length : view.length = view.bytes.length := rfl
  have dropped : view.bytes.length - (view.length - count.toInt.toNat) = count.toInt.toNat := by
    omega
  rw [dropPrefix, checked, List.rtake, dropped]
  rfl

/-- Dropping a suffix within the length of a view whose length is a word leaves the first
bytes. -/
theorem dropSuffix_eq_take (view : StringRef) (short : (view.length : Int) ≤ Int64.maxValue.toInt)
    {count : Int64} (countNonneg : 0 ≤ count.toInt) (within : count.toInt ≤ view.length) :
    view.dropSuffix count = .ok ⟨view.bytes.take (view.length - count.toInt.toNat)⟩ := by
  rw [Int64.toInt_maxValue] at short
  have length : (Int64.ofNat view.length).toInt = view.length :=
    Int64.toInt_ofNat_of_lt (by omega)
  have keep : (Int64.ofNat view.length - count).toInt = view.length - count.toInt := by
    rw [IndexRange.toInt_sub_exact (by rw [length]; omega)
      (by rw [length, Int64.toInt_maxValue]; omega), length]
  have checked : Bounds.fixedPart 0 (Int64.ofNat view.length - count).toInt view.length = .ok () := by
    unfold Bounds.fixedPart Bounds.within
    rw [keep, if_neg (by simp; omega), if_neg (by simp; omega)]
  have kept : (view.length - count.toInt).toNat = view.length - count.toInt.toNat := by omega
  rw [dropSuffix, checked, keep, kept]
  rfl

end StringRef

/-- Trims split a span into the clamped count and the rest; a slice inside a span gives the
elements of its interval; a part of a string view whose end is a word is the bytes up to that
end or the view's end; and dropping a prefix or a suffix keeps the other end. -/
theorem trims_and_slices {α : Type} (span : Span α) (view : StringRef) :
    (∀ count : Int64,
      (span.takeFront count).items ++ (span.dropFront count).items = span.items ∧
      (span.dropBack count).items ++ (span.takeBack count).items = span.items ∧
      ((span.takeFront count).length : Int) = min (max count.toInt 0) span.length ∧
      ((span.dropFront count).length : Int) = span.length - min (max count.toInt 0) span.length ∧
      ((span.dropBack count).length : Int) = span.length - min (max count.toInt 0) span.length ∧
      ((span.takeBack count).length : Int) = min (max count.toInt 0) span.length) ∧
    (∀ start size : Int64, (span.length : Int) ≤ Int64.maxValue.toInt →
      0 ≤ start.toInt → 0 ≤ size.toInt → start.toInt + size.toInt ≤ span.length →
      ∃ part, span.slice start size = .ok part ∧
        part.items.map some = (⟨start, size⟩ : IndexRange).interval.map fun index =>
          span.items[index.toNat]?) ∧
    (∀ start size : Int64, 0 ≤ start.toInt → start.toInt ≤ view.length →
      0 ≤ size.toInt → start.toInt + size.toInt ≤ Int64.maxValue.toInt →
      view.substr start size =
        .ok ⟨view.bytes.extract start.toInt.toNat (min (start.toInt + size.toInt) view.length).toNat⟩) ∧
    (∀ count : Int64, 0 ≤ count.toInt → count.toInt ≤ view.length →
      view.dropPrefix count = .ok ⟨view.bytes.rtake (view.length - count.toInt.toNat)⟩) ∧
    (∀ count : Int64, (view.length : Int) ≤ Int64.maxValue.toInt →
      0 ≤ count.toInt → count.toInt ≤ view.length →
      view.dropSuffix count = .ok ⟨view.bytes.take (view.length - count.toInt.toNat)⟩) := by
  refine ⟨?_, ?_, fun _ _ => view.substr_eq_extract, fun _ => view.dropPrefix_eq_rtake,
    fun _ short => view.dropSuffix_eq_take short⟩
  · intro count
    have clamped := span.clamp_eq count
    have bounded := span.clamp_le count
    refine ⟨span.takeFront_append_dropFront count, span.dropBack_append_takeBack count, ?_, ?_, ?_, ?_⟩ <;>
      simp only [Span.length_takeFront, Span.length_dropFront, Span.length_dropBack,
        Span.length_takeBack] <;> omega
  · intro start size short startNonneg sizeNonneg within
    exact span.slice_elements startNonneg sizeNonneg (show start.toInt + size.toInt ≤ _ by omega) within

/-- The view `abcde` from its third byte, for a hundred bytes, is `cde`. -/
theorem trims_and_slices_abcde :
    (0 ≤ (2 : Int64).toInt ∧ (2 : Int64).toInt ≤ (⟨[97, 98, 99, 100, 101]⟩ : StringRef).length ∧
      0 ≤ (100 : Int64).toInt ∧ (2 : Int64).toInt + (100 : Int64).toInt ≤ Int64.maxValue.toInt) ∧
    (⟨[97, 98, 99, 100, 101]⟩ : StringRef).substr 2 100 = .ok ⟨[99, 100, 101]⟩ := by
  have bounds : 0 ≤ (2 : Int64).toInt ∧ (2 : Int64).toInt ≤ (⟨[97, 98, 99, 100, 101]⟩ : StringRef).length ∧
      0 ≤ (100 : Int64).toInt ∧ (2 : Int64).toInt + (100 : Int64).toInt ≤ Int64.maxValue.toInt := by
    decide
  refine ⟨bounds, ?_⟩
  rw [(trims_and_slices (⟨[]⟩ : Span Int64) _).2.2.1 2 100 bounds.1 bounds.2.1 bounds.2.2.1
    bounds.2.2.2]
  decide

/-- The view `abc` from its second byte, for the largest word of bytes, fails: the end
`1 + (2^63 - 1)` wraps to the least word. -/
theorem substr_of_wrapped_end :
    0 ≤ (1 : Int64).toInt ∧ (1 : Int64).toInt ≤ (⟨[97, 98, 99]⟩ : StringRef).length ∧
      0 ≤ Int64.maxValue.toInt ∧
      (⟨[97, 98, 99]⟩ : StringRef).substr 1 Int64.maxValue = .error (.highAboveLength (-2 ^ 63) 3) := by
  decide

end HeapKit
