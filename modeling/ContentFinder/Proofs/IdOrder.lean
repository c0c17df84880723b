import Mathlib.Data.Set.Insert
import Mathlib.Data.String.Basic
import ContentFinder.Index.Sort

/-! The order of ids. Ids that are numbers are compared as numbers and all others as texts, so that
the two orders can disagree about an id that is no number: it may lie between the texts of two
numbers that come the other way round. The order is transitive among ids where none does. -/

namespace ContentFinder

open Number

variable {x y z : String}

def idNumber? (id : String) : Option Int64 :=
  readWord id.toList

/-- By their texts an id that is no number comes between two numbers, of which the last is not the
greater one. -/
structure Crossed (low middle high : String) : Prop where
  below : low < middle
  above : middle < high
  noNumber : idNumber? middle = none
  numbers : ∃ word highWord, idNumber? low = some word ∧ idNumber? high = some highWord ∧
    highWord.toInt ≤ word.toInt

def Uncrossed (ids : Set String) : Prop :=
  ∀ low ∈ ids, ∀ middle ∈ ids, ∀ high ∈ ids, ¬Crossed low middle high

/-! The two orders. -/

theorem compareIds_numbers {word otherWord : Int64} (number : idNumber? x = some word)
    (otherNumber : idNumber? y = some otherWord) :
    compareIds x y = compare word.toInt otherWord.toInt := by
  rw [idNumber?] at number otherNumber
  rw [compareIds, number, otherNumber]

theorem compareIds_texts (noNumber : idNumber? x = none ∨ idNumber? y = none) :
    compareIds x y = compare x y := by
  rw [idNumber?, idNumber?] at noNumber
  rw [compareIds]
  split
  · rename_i number otherNumber
    simp [number, otherNumber] at noNumber
  · rfl

theorem numbers_or_texts (x y : String) :
    (∃ word otherWord, idNumber? x = some word ∧ idNumber? y = some otherWord) ∨
      (idNumber? x = none ∨ idNumber? y = none) := by
  cases idNumber? x <;> cases idNumber? y <;> simp

theorem compareIds_swap (x y : String) : compareIds y x = (compareIds x y).swap := by
  rcases numbers_or_texts x y with ⟨word, otherWord, number, otherNumber⟩ | noNumber
  · rw [compareIds_numbers number otherNumber, compareIds_numbers otherNumber number]
    exact Std.OrientedOrd.eq_swap
  · rw [compareIds_texts noNumber, compareIds_texts noNumber.symm]
    exact Std.OrientedOrd.eq_swap

theorem compareIds_eq_iff (x y : String) : compareIds x y = .eq ↔
    x = y ∨ ∃ word, idNumber? x = some word ∧ idNumber? y = some word := by
  rcases numbers_or_texts x y with ⟨word, otherWord, number, otherNumber⟩ | noNumber
  · rw [compareIds_numbers number otherNumber, compare_eq_iff_eq, Int64.toInt_inj]
    constructor
    · rintro rfl
      exact .inr ⟨word, number, otherNumber⟩
    · rintro (rfl | ⟨one, first, second⟩)
      · exact Option.some.inj (number.symm.trans otherNumber)
      · exact Option.some.inj ((number.symm.trans first).trans (second.symm.trans otherNumber))
  · rw [compareIds_texts noNumber, compare_eq_iff_eq, or_iff_left]
    rintro ⟨word, number, otherNumber⟩
    simp [number, otherNumber] at noNumber

/-! Three ids. -/

theorem isLE_texts (noNumber : idNumber? x = none ∨ idNumber? y = none) :
    (compareIds x y).isLE ↔ x ≤ y := by
  rw [compareIds_texts noNumber]
  exact Ordering.ne_gt_iff_isLE.symm.trans compare_le_iff_le

theorem isLE_numbers {word otherWord : Int64} (number : idNumber? x = some word)
    (otherNumber : idNumber? y = some otherWord) :
    (compareIds x y).isLE ↔ word.toInt ≤ otherWord.toInt := by
  rw [compareIds_numbers number otherNumber, Std.isLE_compare]

theorem lt_of_le_of_number (le : x ≤ y) (apart : idNumber? x ≠ idNumber? y) : x < y :=
  lt_of_le_of_ne le fun same => apart (congrArg idNumber? same)

/-- Three ids are in order, or the one that is no number is crossed by the others. -/
theorem isLE_trans_or_crossed (first : (compareIds x y).isLE) (second : (compareIds y z).isLE) :
    (compareIds x z).isLE ∨ Crossed x y z ∨ Crossed y z x ∨ Crossed z x y := by
  -- The two orders meet only when just one of the ids is no number.
  cases number : idNumber? x <;> cases middle : idNumber? y <;> cases last : idNumber? z
  case none.none.none | none.none.some | none.some.none | some.none.none =>
    rw [isLE_texts (by simp [number, middle, last])] at first second ⊢
    exact .inl (first.trans second)
  case some.none.some word lastWord =>
    rw [isLE_texts (.inr middle)] at first
    rw [isLE_texts (.inl middle)] at second
    rw [isLE_numbers number last]
    rcases Int.le_total word.toInt lastWord.toInt with le | crossed
    · exact .inl le
    · exact .inr (.inl ⟨lt_of_le_of_number first (by simp [number, middle]),
        lt_of_le_of_number second (by simp [middle, last]), middle,
        word, lastWord, number, last, crossed⟩)
  case some.some.none word middleWord =>
    rw [isLE_numbers number middle] at first
    rw [isLE_texts (.inr last)] at second
    rw [isLE_texts (.inr last)]
    rcases String.le_total x z with le | above
    · exact .inl le
    · exact .inr (.inr (.inl ⟨lt_of_le_of_number second (by simp [middle, last]),
        lt_of_le_of_number above (by simp [number, last]), last,
        middleWord, word, middle, number, first⟩))
  case none.some.some middleWord lastWord =>
    rw [isLE_texts (.inl number)] at first
    rw [isLE_numbers middle last] at second
    rw [isLE_texts (.inl number)]
    rcases String.le_total x z with le | above
    · exact .inl le
    · exact .inr (.inr (.inr ⟨lt_of_le_of_number above (by simp [number, last]),
        lt_of_le_of_number first (by simp [number, middle]), number,
        lastWord, middleWord, last, middle, second⟩))
  case some.some.some =>
    rw [isLE_numbers number middle] at first
    rw [isLE_numbers middle last] at second
    rw [isLE_numbers number last]
    exact .inl (first.trans second)

theorem Crossed.not_lt_trans {low middle high : String} (crossed : Crossed low middle high) :
    compareIds low middle = .lt ∧ compareIds middle high = .lt ∧ compareIds low high ≠ .lt := by
  obtain ⟨below, above, noNumber, word, highWord, number, highNumber, le⟩ := crossed
  rw [compareIds_texts (.inr noNumber), compareIds_texts (.inl noNumber),
    compareIds_numbers number highNumber]
  exact ⟨compare_lt_iff_lt.2 below, compare_lt_iff_lt.2 above,
    fun less => Int.not_le.2 (compare_lt_iff_lt.1 less) le⟩

theorem Uncrossed.transCmp {ids : Set String} (uncrossed : Uncrossed ids) :
    Std.TransCmp fun x y : ids => compareIds x y where
  eq_swap := compareIds_swap _ _
  isLE_trans {x y z} first second := by
    rcases isLE_trans_or_crossed first second with le | crossed | crossed | crossed
    · exact le
    · exact absurd crossed (uncrossed x x.2 y y.2 z z.2)
    · exact absurd crossed (uncrossed y y.2 z z.2 x x.2)
    · exact absurd crossed (uncrossed z z.2 x x.2 y y.2)

/-- No weaker condition would do. -/
theorem uncrossed_iff {ids : Set String} : Uncrossed ids ↔
    ∀ x ∈ ids, ∀ y ∈ ids, ∀ z ∈ ids,
      compareIds x y = .lt → compareIds y z = .lt → compareIds x z = .lt := by
  constructor
  · intro uncrossed x xIn y yIn z zIn
    have transitive := uncrossed.transCmp
    exact transitive.lt_trans (a := ⟨x, xIn⟩) (b := ⟨y, yIn⟩) (c := ⟨z, zIn⟩)
  · intro transitive low lowIn middle middleIn high highIn crossed
    obtain ⟨below, above, notBelow⟩ := crossed.not_lt_trans
    exact notBelow (transitive low lowIn middle middleIn high highIn below above)

/-- The order of ids reverses with its arguments, and it finds just those equal that are one text or
one number. It is transitive among ids of which none that is no number comes, by the texts, between
two numbers of which the last is not the greater one. -/
theorem compareIds_strict (x y z : String) :
    compareIds y x = (compareIds x y).swap ∧
    (compareIds x y = .eq ↔ x = y ∨ ∃ word, idNumber? x = some word ∧ idNumber? y = some word) ∧
    ∀ ids : Set String, Uncrossed ids → x ∈ ids → y ∈ ids → z ∈ ids →
      (compareIds x y = .lt → compareIds y z = .lt → compareIds x z = .lt) ∧
      (compareIds x y ≠ .gt → compareIds y z ≠ .gt → compareIds x z ≠ .gt) := by
  refine ⟨compareIds_swap x y, compareIds_eq_iff x y, fun ids uncrossed xIn yIn zIn => ?_⟩
  have transitive := uncrossed.transCmp
  refine ⟨uncrossed_iff.1 uncrossed x xIn y yIn z zIn, ?_⟩
  simp only [Ordering.ne_gt_iff_isLE]
  exact transitive.isLE_trans (a := ⟨x, xIn⟩) (b := ⟨y, yIn⟩) (c := ⟨z, zIn⟩)

theorem compareIds_strict_mixed :
    compareIds "2" "10" = .lt ∧ compareIds "10" "b" = .lt ∧ compareIds "2" "b" = .lt := by
  have uncrossed : Uncrossed {"2", "10", "b"} := by
    intro low _ middle middleIn high highIn crossed
    have above := crossed.above
    have noNumber := crossed.noNumber
    rcases middleIn with rfl | rfl | rfl
    · exact absurd noNumber (by decide)
    · exact absurd noNumber (by decide)
    · rcases highIn with rfl | rfl | rfl <;> exact absurd above (by decide)
  have first : compareIds "2" "10" = .lt := by decide
  have second : compareIds "10" "b" = .lt := by decide
  obtain ⟨-, -, transitive⟩ := compareIds_strict "2" "10" "b"
  obtain ⟨less, -⟩ := transitive _ uncrossed (by simp) (by simp) (by simp)
  exact ⟨first, second, less first second⟩

/-- Three ids that come one after another in a circle, and two spellings of one number. -/
theorem compareIds_circle : compareIds "9" "10" = .lt ∧ compareIds "10" "1a" = .lt ∧
    compareIds "1a" "9" = .lt ∧ compareIds "1" "01" = .eq := by
  decide

end ContentFinder
