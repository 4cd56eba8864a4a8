import Mathlib
import HeapKit.Container.Span

/-!
# Index ranges as integer intervals

An index range stands for the integers `[start, start + size)`, listed in order by
`IndexRange.interval`. Its operations compute with 64-bit words, so they agree with the
interval while `start + size` is itself a word: the range `Fits`.

The ranges a program can build are `Admitted`: made from a start and a size that are not
negative, and derived from such a range by moving, slicing and trimming, each with the
checks of its assertions as the words compute them. Every such range has a size that is not
negative (`Admitted.size_nonneg`). A fitting admitted range lists exactly its interval,
holds exactly its interval's members, ends where the interval ends, is equal to another
fitting range exactly when their intervals are, splits its interval into consecutive parts
when trimmed from either end, and, when it starts at zero or later, picks from a span the
elements at its positions (`Admitted.intervalLaws`).

A range whose end leaves the words is another matter: `[1, 1 + (2^63 - 1))` has its end
wrapped to the least word, so it lists no index and holds none, not even its start
(`contains_start_of_wrapped_end`).
-/

namespace HeapKit

namespace IndexRange

/-- The integers `[start, start + size)`, in order. -/
def interval (range : IndexRange) : List Int :=
  (List.range range.size.toInt.toNat).map fun offset : Nat => range.start.toInt + (offset : Int)

/-- The end `start + size` of a range is a 64-bit integer. -/
def Fits (range : IndexRange) : Prop :=
  range.start.toInt + range.size.toInt ≤ Int64.maxValue.toInt

instance (range : IndexRange) : Decidable range.Fits := inferInstanceAs (Decidable (_ ≤ _))

/-- The ranges a program builds with every assertion holding, the checks computed in 64-bit
words: `[start, start + size)` from a start and a size that are not negative, `[0, size)`,
`[begin, finish)` from `0 ≤ begin ≤ finish`, and what moving by an offset that keeps the start
not negative, slicing within the size, and trimming make of them. -/
inductive Admitted : IndexRange → Prop
  | make (start size : Int64) : 0 ≤ start → 0 ≤ size → Admitted ⟨start, size⟩
  | upTo (size : Int64) : 0 ≤ size → Admitted (upTo size)
  | between (begin finish : Int64) : begin ≤ finish → 0 ≤ begin → Admitted (between begin finish)
  | shift {range : IndexRange} (offset : Int64) :
      Admitted range → 0 ≤ range.start + offset → Admitted (range.shift offset)
  | slice {range : IndexRange} (start size : Int64) :
      Admitted range → 0 ≤ start → 0 ≤ size → start + size ≤ range.size →
        Admitted (range.slice start size)
  | dropFront {range : IndexRange} (count : Int64) : Admitted range → Admitted (range.dropFront count)
  | dropBack {range : IndexRange} (count : Int64) : Admitted range → Admitted (range.dropBack count)
  | takeFront {range : IndexRange} (count : Int64) : Admitted range → Admitted (range.takeFront count)
  | takeBack {range : IndexRange} (count : Int64) : Admitted range → Admitted (range.takeBack count)

/-! ### Word arithmetic that does not wrap -/

theorem toInt_add_exact {first second : Int64} (low : -2 ^ 63 ≤ first.toInt + second.toInt)
    (high : first.toInt + second.toInt ≤ Int64.maxValue.toInt) :
    (first + second).toInt = first.toInt + second.toInt := by
  rw [Int64.toInt_maxValue] at high
  rw [Int64.toInt_add]
  exact Int.bmod_eq_of_le (by omega) (by omega)

theorem toInt_sub_exact {first second : Int64} (low : -2 ^ 63 ≤ first.toInt - second.toInt)
    (high : first.toInt - second.toInt ≤ Int64.maxValue.toInt) :
    (first - second).toInt = first.toInt - second.toInt := by
  rw [Int64.toInt_maxValue] at high
  rw [Int64.toInt_sub]
  exact Int.bmod_eq_of_le (by omega) (by omega)

theorem toInt_min (first second : Int64) : (min first second).toInt = min first.toInt second.toInt := by
  change (if first ≤ second then first else second).toInt = _
  by_cases le : first ≤ second
  · rw [if_pos le, min_eq_left (Int64.le_iff_toInt_le.mp le)]
  · rw [if_neg le, min_eq_right (le_of_lt (Int64.lt_iff_toInt_lt.mp (Int64.not_le.mp le)))]

theorem toInt_max (first second : Int64) : (max first second).toInt = max first.toInt second.toInt := by
  change (if first ≤ second then second else first).toInt = _
  by_cases le : first ≤ second
  · rw [if_pos le, max_eq_right (Int64.le_iff_toInt_le.mp le)]
  · rw [if_neg le, max_eq_left (le_of_lt (Int64.lt_iff_toInt_lt.mp (Int64.not_le.mp le)))]

/-- A trim takes its count clamped to `[0, size]`. -/
theorem clamp_toInt (range : IndexRange) (count : Int64) :
    (range.clamp count).toInt = min (max count.toInt 0) range.size.toInt := by
  rw [clamp, toInt_min, toInt_max]
  rfl

/-- A clamped count lies in `[0, size]`. -/
theorem clamp_mem (range : IndexRange) (nonneg : 0 ≤ range.size.toInt) (count : Int64) :
    0 ≤ (range.clamp count).toInt ∧ (range.clamp count).toInt ≤ range.size.toInt := by
  rw [clamp_toInt]
  omega

/-- Trimming a range of a size that is not negative leaves `size - count` indices, counted
exactly. -/
theorem size_sub_clamp_toInt (range : IndexRange) (nonneg : 0 ≤ range.size.toInt) (count : Int64) :
    (range.size - range.clamp count).toInt = range.size.toInt - (range.clamp count).toInt := by
  have := range.clamp_mem nonneg count
  have := range.size.toInt_le
  exact toInt_sub_exact (by omega) (by omega)

/-- What trimming a range of a size that is not negative leaves is not negative. -/
theorem size_sub_clamp_nonneg (range : IndexRange) (nonneg : 0 ≤ range.size.toInt) (count : Int64) :
    0 ≤ (range.size - range.clamp count).toInt := by
  have := range.clamp_mem nonneg count
  rw [range.size_sub_clamp_toInt nonneg]
  omega

/-! ### Sizes that are not negative -/

theorem Admitted.size_nonneg {range : IndexRange} (admitted : Admitted range) :
    0 ≤ range.size.toInt := by
  induction admitted with
  | make start size _ nonneg => exact Int64.le_iff_toInt_le.mp nonneg
  | upTo size nonneg => exact Int64.le_iff_toInt_le.mp nonneg
  | between begin finish ordered nonneg =>
    have ordered := Int64.le_iff_toInt_le.mp ordered
    have nonneg : 0 ≤ begin.toInt := Int64.le_iff_toInt_le.mp nonneg
    have := finish.toInt_le
    change 0 ≤ (finish - begin).toInt
    rw [toInt_sub_exact (by omega) (by omega)]
    omega
  | shift _ _ _ sizeNonneg => exact sizeNonneg
  | slice _ _ _ _ nonneg _ _ => exact Int64.le_iff_toInt_le.mp nonneg
  | @dropFront range count _ sizeNonneg => exact range.size_sub_clamp_nonneg sizeNonneg count
  | @dropBack range count _ sizeNonneg => exact range.size_sub_clamp_nonneg sizeNonneg count
  | @takeFront range count _ sizeNonneg => exact (range.clamp_mem sizeNonneg count).1
  | @takeBack range count _ sizeNonneg => exact (range.clamp_mem sizeNonneg count).1

/-! ### The interval of a range -/

theorem length_interval (range : IndexRange) : range.interval.length = range.size.toInt.toNat := by
  simp [interval]

/-- Two ranges side by side make up the range from the first's start with both sizes. -/
theorem interval_append {first second whole : IndexRange} (firstNonneg : 0 ≤ first.size.toInt)
    (secondNonneg : 0 ≤ second.size.toInt) (sameStart : whole.start.toInt = first.start.toInt)
    (adjacent : second.start.toInt = first.start.toInt + first.size.toInt)
    (sizes : whole.size.toInt = first.size.toInt + second.size.toInt) :
    first.interval ++ second.interval = whole.interval := by
  have split : whole.size.toInt.toNat = first.size.toInt.toNat + second.size.toInt.toNat := by omega
  unfold interval
  rw [split, List.range_add, List.map_append, List.map_map, sameStart, adjacent]
  congr 1
  apply List.map_congr_left
  intro offset _
  simp only [Function.comp_apply, Nat.cast_add]
  omega

/-- The end of a fitting range is a word. -/
theorem Fits.end_lt {range : IndexRange} (fits : range.Fits) :
    range.start.toInt + range.size.toInt < 2 ^ 63 := by
  unfold Fits at fits
  rw [Int64.toInt_maxValue] at fits
  omega

theorem oneAfterLast_toInt {range : IndexRange} (nonneg : 0 ≤ range.size.toInt) (fits : range.Fits) :
    range.oneAfterLast.toInt = range.start.toInt + range.size.toInt :=
  toInt_add_exact (by have := Int64.le_toInt range.start; omega) fits

theorem get_toInt {range : IndexRange} (nonneg : 0 ≤ range.size.toInt) (fits : range.Fits)
    {position : Nat} (below : position < range.size.toInt.toNat) :
    (range.get (Int64.ofNat position)).toInt = range.start.toInt + position := by
  have ends := fits.end_lt
  have low := Int64.le_toInt range.start
  have high := range.size.toInt_le
  rw [Int64.toInt_maxValue] at high
  have small : (Int64.ofNat position).toInt = position := Int64.toInt_ofNat_of_lt (by omega)
  unfold get
  rw [toInt_add_exact (by omega) (by rw [small, Int64.toInt_maxValue]; omega), small]

/-! ### Listing a range -/

/-- The listed indices of a fitting range are the integers of its interval, in order. -/
theorem indices_toInt {range : IndexRange} (nonneg : 0 ≤ range.size.toInt) (fits : range.Fits)
    (limit : Nat) : (range.indices limit).map Int64.toInt = range.interval.take limit := by
  have ends := fits.end_lt
  have low := Int64.le_toInt range.start
  unfold indices interval
  rw [oneAfterLast_toInt nonneg fits, add_sub_cancel_left, List.map_map, ← List.map_take,
    List.take_range]
  apply List.map_congr_left
  intro offset member
  rw [List.mem_range] at member
  exact Int64.toInt_ofInt_of_le (by omega) (by omega)

/-- Listing a fitting range gives the indices at its positions `0, 1, …` in turn. -/
theorem indices_eq_get {range : IndexRange} (nonneg : 0 ≤ range.size.toInt) (fits : range.Fits)
    (limit : Nat) :
    range.indices limit =
      ((List.range range.size.toInt.toNat).map fun position => range.get (Int64.ofNat position)).take
        limit := by
  apply List.map_injective_iff.mpr (fun _ _ same => Int64.toInt_inj.mp same)
  rw [indices_toInt nonneg fits, List.map_take, List.map_map]
  congr 1
  unfold interval
  apply List.map_congr_left
  intro position member
  exact (get_toInt nonneg fits (List.mem_range.mp member)).symm

/-! ### Membership, the last index and equality -/

theorem contains_iff {range : IndexRange} (nonneg : 0 ≤ range.size.toInt) (fits : range.Fits)
    (value : Int64) : range.contains value = true ↔ value.toInt ∈ range.interval := by
  unfold contains interval
  simp only [Bool.and_eq_true, decide_eq_true_eq, ge_iff_le, Int64.le_iff_toInt_le,
    Int64.lt_iff_toInt_lt, oneAfterLast_toInt nonneg fits, List.mem_map, List.mem_range]
  constructor
  · rintro ⟨after, before⟩
    exact ⟨(value.toInt - range.start.toInt).toNat, by omega, by omega⟩
  · rintro ⟨offset, below, hit⟩
    omega

/-- The last index of a nonempty fitting range is one before its end, at its last position,
and the last integer of its interval. -/
theorem last_eq {range : IndexRange} (nonneg : 0 ≤ range.size.toInt) (fits : range.Fits)
    (positive : 0 < range.size.toInt) :
    range.last = range.oneAfterLast - 1 ∧ range.last = range.get (range.size - 1) ∧
      range.interval.getLast? = some range.last.toInt := by
  have ends := fits.end_lt
  have low := Int64.le_toInt range.start
  have one : (1 : Int64).toInt = 1 := rfl
  have endExact := oneAfterLast_toInt nonneg fits
  have lastExact : range.last.toInt = range.start.toInt + range.size.toInt - 1 := by
    change (range.oneAfterLast - 1).toInt = _
    rw [toInt_sub_exact (by rw [endExact, one]; omega)
      (by rw [endExact, one, Int64.toInt_maxValue]; omega), endExact, one]
  refine ⟨rfl, ?_, ?_⟩
  · apply Int64.toInt_inj.mp
    have sizeExact : (range.size - 1).toInt = range.size.toInt - 1 := by
      have := range.size.toInt_le
      rw [toInt_sub_exact (by rw [one]; omega) (by rw [one]; omega), one]
    unfold get
    rw [lastExact, toInt_add_exact (by rw [sizeExact]; omega)
      (by rw [sizeExact, Int64.toInt_maxValue]; omega), sizeExact]
    omega
  · unfold interval
    rw [List.getLast?_map, List.getLast?_range, if_neg (by omega), Option.map_some, lastExact]
    congr 1
    omega

/-- Two ranges of sizes that are not negative are equal as ranges exactly when their intervals
are: equal sizes, and equal starts unless both are empty. -/
theorem sameIndices_iff {range other : IndexRange} (nonneg : 0 ≤ range.size.toInt)
    (otherNonneg : 0 ≤ other.size.toInt) :
    range.sameIndices other = true ↔ range.interval = other.interval := by
  have headOf : ∀ {ranged : IndexRange}, 0 < ranged.size.toInt →
      ranged.interval.head? = some ranged.start.toInt := by
    intro ranged positive
    unfold interval
    rw [List.head?_map, List.head?_range, if_neg (by omega), Option.map_some, Nat.cast_zero,
      add_zero]
  unfold sameIndices
  simp only [Bool.and_eq_true, Bool.or_eq_true, beq_iff_eq]
  constructor
  · rintro ⟨sameSize, sameStart | empty⟩
    · unfold interval
      rw [sameStart, sameSize]
    · unfold interval
      rw [← sameSize, empty, Int64.toInt_zero, Int.toNat_zero, List.range_zero, List.map_nil,
        List.map_nil]
  · intro same
    have sizes := congrArg List.length same
    rw [length_interval, length_interval] at sizes
    have sameSize : range.size = other.size := Int64.toInt_inj.mp (by omega)
    refine ⟨sameSize, ?_⟩
    by_cases empty : range.size = 0
    · exact .inr empty
    · have positive : 0 < range.size.toInt := by
        have : range.size.toInt ≠ 0 := fun zero => empty (Int64.toInt_inj.mp zero)
        omega
      have heads := congrArg List.head? same
      rw [headOf positive, headOf (by rw [← sameSize]; exact positive), Option.some.injEq] at heads
      exact .inl (Int64.toInt_inj.mp heads)

/-! ### Trimming -/

/-- Taking and dropping the same count from the front of a fitting range splits its interval. -/
theorem interval_takeFront_append_dropFront {range : IndexRange} (nonneg : 0 ≤ range.size.toInt)
    (fits : range.Fits) (count : Int64) :
    (range.takeFront count).interval ++ (range.dropFront count).interval = range.interval := by
  have ends := fits.end_lt
  have low := Int64.le_toInt range.start
  have clamped := range.clamp_mem nonneg count
  refine interval_append clamped.1 (range.size_sub_clamp_nonneg nonneg count) rfl ?_ ?_
  · change (range.start + range.clamp count).toInt = _
    rw [toInt_add_exact (by omega) (by rw [Int64.toInt_maxValue]; omega)]
    rfl
  · change _ = (range.clamp count).toInt + (range.size - range.clamp count).toInt
    rw [range.size_sub_clamp_toInt nonneg]
    omega

/-- Dropping and taking the same count from the back of a fitting range splits its interval. -/
theorem interval_dropBack_append_takeBack {range : IndexRange} (nonneg : 0 ≤ range.size.toInt)
    (fits : range.Fits) (count : Int64) :
    (range.dropBack count).interval ++ (range.takeBack count).interval = range.interval := by
  have ends := fits.end_lt
  have low := Int64.le_toInt range.start
  have clamped := range.clamp_mem nonneg count
  have kept : (range.dropBack count).size.toInt = range.size.toInt - (range.clamp count).toInt :=
    range.size_sub_clamp_toInt nonneg count
  have endExact : (range.start + range.size).toInt = range.start.toInt + range.size.toInt :=
    oneAfterLast_toInt nonneg fits
  refine interval_append (range.size_sub_clamp_nonneg nonneg count) clamped.1 rfl ?_ ?_
  · change (range.start + range.size - range.clamp count).toInt =
      range.start.toInt + (range.dropBack count).size.toInt
    rw [kept, toInt_sub_exact (by rw [endExact]; omega)
      (by rw [endExact, Int64.toInt_maxValue]; omega), endExact]
    omega
  · rw [kept]
    change _ = _ + (range.clamp count).toInt
    omega

end IndexRange

/-! ### Spans read through a range -/

namespace Span

theorem map_some_take_drop {α : Type} (items : List α) (start count : Nat)
    (within : start + count ≤ items.length) :
    ((items.drop start).take count).map some =
      (List.range count).map fun offset => items[start + offset]? := by
  apply List.ext_getElem
  · simp only [List.length_map, List.length_take, List.length_drop, List.length_range]
    omega
  · intro position inLeft inRight
    simp only [List.length_map, List.length_range] at inRight
    simp only [List.getElem_map, List.getElem_take, List.getElem_drop, List.getElem_range]
    rw [List.getElem?_eq_getElem (by omega)]

/-- A part of a span inside it, with an end that is a word, holds the elements at the
positions of the part's interval. -/
theorem slice_elements {α : Type} (span : Span α) {start size : Int64}
    (startNonneg : 0 ≤ start.toInt) (sizeNonneg : 0 ≤ size.toInt)
    (fits : (⟨start, size⟩ : IndexRange).Fits) (within : start.toInt + size.toInt ≤ span.length) :
    ∃ part, span.slice start size = .ok part ∧
      part.items.map some = (⟨start, size⟩ : IndexRange).interval.map fun index =>
        span.items[index.toNat]? := by
  have finish : (start + size).toInt = start.toInt + size.toInt :=
    @IndexRange.oneAfterLast_toInt ⟨start, size⟩ sizeNonneg fits
  have length : span.length = span.items.length := rfl
  have checked : Bounds.cappedPart start.toInt (start + size).toInt (start + size).toInt span.length =
      .ok () := by
    unfold Bounds.cappedPart Bounds.within
    rw [finish, if_neg (by simp; omega), if_neg (by simp; omega), if_neg (by simp; omega)]
  refine ⟨_, by rw [Span.slice, checked]; rfl, ?_⟩
  rw [map_some_take_drop _ _ _ (by rw [← length]; omega)]
  unfold IndexRange.interval
  rw [List.map_map]
  apply List.map_congr_left
  intro offset _
  simp only [Function.comp_apply]
  congr 2
  omega

end Span

namespace IndexRange

/-! ### The laws of a range -/

/-- What a range's operations say of its interval. -/
structure IntervalLaws (range : IndexRange) : Prop where
  /-- Listing the range gives the indices at its positions `0, 1, …, size - 1`, as far as the
  listing goes. -/
  indices_eq_get : ∀ limit, range.indices limit =
    ((List.range range.size.toInt.toNat).map fun position => range.get (Int64.ofNat position)).take
      limit
  /-- The listed indices are the integers of the interval, in order. -/
  indices_toInt : ∀ limit, (range.indices limit).map Int64.toInt = range.interval.take limit
  /-- The range holds exactly the members of its interval. -/
  contains_iff : ∀ value, range.contains value = true ↔ value.toInt ∈ range.interval
  /-- A nonempty range's last index is one before its end, at its last position, and the last
  integer of its interval. -/
  last_eq : 0 < range.size.toInt → range.last = range.oneAfterLast - 1 ∧
    range.last = range.get (range.size - 1) ∧ range.interval.getLast? = some range.last.toInt
  /-- Two ranges are equal exactly when their intervals are. -/
  sameIndices_iff : ∀ other, Admitted other →
    (range.sameIndices other = true ↔ range.interval = other.interval)
  /-- Taking and dropping a count at the front split the interval. -/
  front_split : ∀ count,
    (range.takeFront count).interval ++ (range.dropFront count).interval = range.interval
  /-- Dropping and taking a count at the back split the interval. -/
  back_split : ∀ count,
    (range.dropBack count).interval ++ (range.takeBack count).interval = range.interval
  /-- A span at least as long as the range's end gives the elements at the range's indices,
  when the range starts at zero or later. -/
  sliceRange_elements : ∀ {α : Type} (span : Span α), 0 ≤ range.start.toInt →
    range.oneAfterLast.toInt ≤ span.length →
      ∃ part, span.sliceRange range = .ok part ∧
        part.items.map some = range.interval.map fun index => span.items[index.toNat]?

/-- A range built with its assertions holding, whose end is a word, is its interval. -/
theorem Admitted.intervalLaws {range : IndexRange} (admitted : Admitted range) (fits : range.Fits) :
    range.IntervalLaws := by
  have nonneg := admitted.size_nonneg
  refine ⟨indices_eq_get nonneg fits, indices_toInt nonneg fits, contains_iff nonneg fits,
    last_eq nonneg fits, fun other otherAdmitted => sameIndices_iff nonneg otherAdmitted.size_nonneg,
    interval_takeFront_append_dropFront nonneg fits, interval_dropBack_append_takeBack nonneg fits, ?_⟩
  intro α span startNonneg within
  rw [oneAfterLast_toInt nonneg fits] at within
  exact span.slice_elements startNonneg nonneg fits within

/-- `[3, 10)` without its first two indices is admitted and fits, and so is its interval. -/
theorem intervalLaws_trimmed_between :
    Admitted ((between 3 10).dropFront 2) ∧ ((between 3 10).dropFront 2).Fits ∧
      ((between 3 10).dropFront 2).IntervalLaws := by
  have admitted : Admitted ((between 3 10).dropFront 2) :=
    .dropFront 2 (.between 3 10 (by decide) (by decide))
  have fits : ((between 3 10).dropFront 2).Fits := by decide
  exact ⟨admitted, fits, Admitted.intervalLaws admitted fits⟩

/-- A range whose end wraps past the largest word is not its interval: `[1, 1 + (2^63 - 1))`
does not contain its own start. Nor does a range whose start wrapped: slicing one index out of
`[2^63 - 1, 2^63 + 4)` past its first gives a range at the least word, which no span can give
elements for, however long. -/
theorem contains_start_of_wrapped_end :
    Admitted ⟨1, Int64.maxValue⟩ ∧ (1 : Int) ∈ (⟨1, Int64.maxValue⟩ : IndexRange).interval ∧
      (⟨1, Int64.maxValue⟩ : IndexRange).contains 1 = false ∧
    Admitted ((⟨Int64.maxValue, 5⟩ : IndexRange).slice 1 1) ∧
      ((⟨Int64.maxValue, 5⟩ : IndexRange).slice 1 1).Fits ∧
      ((⟨Int64.maxValue, 5⟩ : IndexRange).slice 1 1).oneAfterLast.toInt ≤ (⟨[]⟩ : Span Int64).length ∧
      ((⟨[]⟩ : Span Int64).sliceRange ((⟨Int64.maxValue, 5⟩ : IndexRange).slice 1 1)).toOption = none := by
  refine ⟨.make 1 Int64.maxValue (by decide) (by decide), ?_, by decide,
    .slice 1 1 (.make Int64.maxValue 5 (by decide) (by decide)) (by decide) (by decide) (by decide),
    by decide, by decide, by decide⟩
  exact List.mem_map.mpr ⟨0, List.mem_range.mpr (by decide), by decide⟩

end IndexRange

end HeapKit
