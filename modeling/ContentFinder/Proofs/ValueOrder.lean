import ContentFinder.Proofs.ExactNumbers

/-! The order of all index values. Classes come one after another, and within a class two values
are compared as what they are, but an integer is compared with a double as its rounded self. Two
integers that are rounded to one double are therefore both equal to it, though not to each other.
The order is transitive but for these. -/

namespace ContentFinder.IndexValue

open Number

variable {x y z : IndexValue}

/-- The middle value is the double that two integers or dates are rounded to, and the last of these
is less than the first. -/
def Merged (x y z : IndexValue) : Prop :=
  ∃ word lastWord, x.integer? = some word ∧ z.integer? = some lastWord ∧
    y = .float (.ofInt word.toInt) ∧ y = .float (.ofInt lastWord.toInt) ∧
    lastWord.toInt < word.toInt

/-! The reversed order. -/

theorem compare?_swap (x y : IndexValue) : y.compare? x = (x.compare? y).map Ordering.swap := by
  cases x <;> cases y <;> first | rfl | exact congrArg some Std.OrientedOrd.eq_swap

theorem order_swap (x y : IndexValue) : y.order x = (x.order y).swap := by
  have ranks : compare y.rank x.rank = (compare x.rank y.rank).swap := Std.OrientedOrd.eq_swap
  rw [order, order, Ordering.swap_then, ranks, compare?_swap]
  cases x.compare? y <;> rfl

/-! Values by class. -/

theorem order_of_rank_eq (same : x.rank = y.rank) :
    x.order y = (x.compare? y).getD .eq := by
  rw [order, compare_eq_iff_eq.2 same, Ordering.then]

theorem order_isLE_iff : (x.order y).isLE ↔
    x.rank < y.rank ∨ x.rank = y.rank ∧ ((x.compare? y).getD .eq).isLE := by
  rcases lt_trichotomy x.rank y.rank with less | same | greater
  · simp [order, compare_lt_iff_lt.2 less, less]
  · simp [order_of_rank_eq same, same]
  · simp [order, compare_gt_iff_gt.2 greater, greater.not_gt, greater.ne']

theorem exists_number_of_rank (isNumber : x.rank = 1) : ∃ double, x.number? = some double := by
  cases x <;> simp_all [rank, number?]

theorem isLE_trans_of_rank_ne (noNumber : y.rank ≠ 1) (first : x.rank = y.rank)
    (second : y.rank = z.rank) (low : ((x.compare? y).getD .eq).isLE)
    (high : ((y.compare? z).getD .eq).isLE) : ((x.compare? z).getD .eq).isLE := by
  cases y with
  | string _ =>
    cases x <;> cases first
    cases z <;> cases second
    exact Std.TransOrd.isLE_trans low high
  | boolean _ =>
    cases x <;> cases first
    cases z <;> cases second
    exact Std.TransOrd.isLE_trans low high
  | point _ _ =>
    cases x <;> cases first
    cases z <;> cases second
    rfl
  | integer _ | float _ | date _ => exact absurd rfl noNumber

theorem eq_float_of_number {double : Double} (rounded : x.number? = some double)
    (noWord : x.integer? = none) : x = .float double := by
  cases x <;> simp_all [number?, integer?]

theorem rank_of_integer {word : Int64} (whole : x.integer? = some word) : x.rank = 1 := by
  cases x <;> simp_all [rank, integer?]

section Numbers

variable {double otherDouble : Double} (rounded : x.number? = some double)
  (otherRounded : y.number? = some otherDouble)

include rounded otherRounded

theorem compare?_isLE_iff : ((x.compare? y).getD .eq).isLE ↔
    double.place < otherDouble.place ∨ double = otherDouble ∧
      ∀ word otherWord, x.integer? = some word → y.integer? = some otherWord →
        word.toInt ≤ otherWord.toInt := by
  by_cases both : x.integer?.isSome = true ∧ y.integer?.isSome = true
  · obtain ⟨word, whole⟩ := Option.isSome_iff_exists.1 both.1
    obtain ⟨otherWord, otherWhole⟩ := Option.isSome_iff_exists.1 both.2
    rw [number?_of_integer whole] at rounded
    rw [number?_of_integer otherWhole] at otherRounded
    cases rounded
    cases otherRounded
    have rounding : ∀ {small large : Int}, small ≤ large →
        (Binary.ofInt small : Double).place ≤ (Binary.ofInt large : Double).place :=
      Binary.place_ofInt_mono
    have up : word.toInt ≤ otherWord.toInt → _ := rounding
    have down : otherWord.toInt ≤ word.toInt → _ := rounding
    rw [compare?_integers whole otherWhole, Option.getD_some, Std.isLE_compare]
    have asWhole : (∀ i j, x.integer? = some i → y.integer? = some j → i.toInt ≤ j.toInt) ↔
        word.toInt ≤ otherWord.toInt := by
      simp [whole, otherWhole]
    rw [asWhole, ← Binary.place_injective.eq_iff]
    omega
  · have nothing : ∀ word otherWord, x.integer? = some word → y.integer? = some otherWord →
        word.toInt ≤ otherWord.toInt := fun word otherWord whole otherWhole =>
      absurd ⟨by rw [whole]; rfl, by rw [otherWhole]; rfl⟩ both
    rw [compare?_doubles rounded otherRounded both, Option.getD_some, Binary.compareTotal,
      Std.isLE_compare, ← Binary.place_injective.eq_iff, and_iff_left nothing]
    omega

end Numbers

theorem merged_iff_numbers (first : x.rank = 1) (second : y.rank = 1) (third : z.rank = 1) :
    (((x.compare? y).getD .eq).isLE ∧ ((y.compare? z).getD .eq).isLE ∧
      ¬((x.compare? z).getD .eq).isLE) ↔ x.Merged y z := by
  obtain ⟨a, xRounded⟩ := exists_number_of_rank first
  obtain ⟨b, yRounded⟩ := exists_number_of_rank second
  obtain ⟨c, zRounded⟩ := exists_number_of_rank third
  rw [compare?_isLE_iff xRounded yRounded, compare?_isLE_iff yRounded zRounded,
    compare?_isLE_iff xRounded zRounded]
  constructor
  · rintro ⟨low, high, above⟩
    -- The doubles go up from the first to the last, but not strictly, so that all are one.
    have places : ¬a.place < c.place := fun less => above (.inl less)
    obtain ⟨rfl, lowWords⟩ := low.resolve_left (by rcases high with less | ⟨rfl, -⟩ <;> omega)
    obtain ⟨rfl, highWords⟩ := high.resolve_left places
    obtain ⟨word, lastWord, whole, lastWhole, less⟩ : ∃ word lastWord,
        x.integer? = some word ∧ z.integer? = some lastWord ∧ lastWord.toInt < word.toInt := by
      by_contra nothing
      refine above (.inr ⟨rfl, fun word lastWord whole lastWhole => ?_⟩)
      by_contra less
      exact nothing ⟨word, lastWord, whole, lastWhole, Int.not_le.1 less⟩
    have between : y.integer? = none := by
      rw [Option.eq_none_iff_forall_ne_some]
      intro middle middleWhole
      have first := lowWords word middle whole middleWhole
      have second := highWords middle lastWord middleWhole lastWhole
      omega
    obtain rfl := eq_float_of_number yRounded between
    rw [number?_of_integer whole, Option.some.injEq] at xRounded
    rw [number?_of_integer lastWhole, Option.some.injEq] at zRounded
    exact ⟨word, lastWord, whole, lastWhole, by rw [xRounded], by rw [zRounded], less⟩
  · rintro ⟨word, lastWord, whole, lastWhole, rfl, same, less⟩
    rw [number?_of_integer whole] at xRounded
    rw [number?_of_integer lastWhole] at zRounded
    cases xRounded
    cases yRounded
    cases zRounded
    rw [float.injEq] at same
    refine ⟨.inr ⟨rfl, by simp [integer?]⟩, .inr ⟨same, by simp [integer?]⟩, ?_⟩
    rintro (apart | ⟨-, words⟩)
    · rw [same] at apart
      omega
    · exact Int.not_le.2 less (words word lastWord whole lastWhole)

theorem Merged.rank_eq (merged : x.Merged y z) : x.rank = 1 ∧ y.rank = 1 ∧ z.rank = 1 := by
  obtain ⟨word, lastWord, whole, lastWhole, rfl, -⟩ := merged
  exact ⟨rank_of_integer whole, rfl, rank_of_integer lastWhole⟩

/-- Values are out of order just where two integers are rounded to the double between them. -/
theorem order_merged_iff (x y z : IndexValue) :
    ((x.order y).isLE ∧ (y.order z).isLE ∧ ¬(x.order z).isLE) ↔ x.Merged y z := by
  simp only [order_isLE_iff]
  constructor
  · rintro ⟨low, high, above⟩
    have first : x.rank ≤ y.rank := low.elim Nat.le_of_lt fun same => same.1.le
    have second : y.rank ≤ z.rank := high.elim Nat.le_of_lt fun same => same.1.le
    have third : ¬x.rank < z.rank := fun less => above (.inl less)
    obtain ⟨same, next, ends⟩ : x.rank = y.rank ∧ y.rank = z.rank ∧ x.rank = z.rank := by omega
    have lowLE := (low.resolve_left same.not_lt).2
    have highLE := (high.resolve_left next.not_lt).2
    have notLE : ¬((x.compare? z).getD .eq).isLE := fun isLE => above (.inr ⟨ends, isLE⟩)
    by_cases number : y.rank = 1
    · exact (merged_iff_numbers (same.trans number) number (next.symm.trans number)).1
        ⟨lowLE, highLE, notLE⟩
    · exact absurd (isLE_trans_of_rank_ne number same next lowLE highLE) notLE
  · intro merged
    obtain ⟨first, second, third⟩ := merged.rank_eq
    have numbers := (merged_iff_numbers first second third).2 merged
    simp [first, second, third, numbers]

theorem not_merged {word lastWord : Int64} (whole : x.integer? = some word)
    (lastWhole : z.integer? = some lastWord) (small : word.toInt.natAbs ≤ 9007199254740992)
    (lastSmall : lastWord.toInt.natAbs ≤ 9007199254740992) : ¬x.Merged y z := by
  rintro ⟨i, j, iWhole, jWhole, rfl, same, less⟩
  obtain rfl := Option.some.inj (whole.symm.trans iWhole)
  obtain rfl := Option.some.inj (lastWhole.symm.trans jWhole)
  have kept := units_double small
  have lastKept := units_double lastSmall
  rw [float.injEq] at same
  have positive : (0 : Int) < Format.double.one := Int.natCast_pos.2 Format.double.one_pos
  rw [same, lastKept, Int.mul_eq_mul_right_iff positive.ne'] at kept
  omega

/-- The order reverses with its arguments, and it is transitive but for integers that are rounded to
the double between them, which those of up to 53 binary places never are. -/
theorem order_preorder (x y z : IndexValue) :
    y.order x = (x.order y).swap ∧
    (x.order y ≠ .gt ∧ y.order z ≠ .gt ∧ x.order z = .gt ↔ x.Merged y z) ∧
    ∀ word lastWord, x.integer? = some word → z.integer? = some lastWord →
      word.toInt.natAbs ≤ 9007199254740992 → lastWord.toInt.natAbs ≤ 9007199254740992 →
        ¬x.Merged y z := by
  refine ⟨order_swap x y, ?_, fun word lastWord => not_merged⟩
  simp only [← order_merged_iff, ← Ordering.ne_gt_iff_isLE, ne_eq, not_not]

theorem order_preorder_one :
    order (.integer 1) (.float (.ofInt 1)) = .eq ∧ order (.float (.ofInt 1)) (.date 1) = .eq ∧
      order (.integer 1) (.date 1) ≠ .gt := by
  have word : (1 : Int64).toInt = 1 := by decide
  have first : order (.integer 1) (.float (.ofInt 1)) = .eq := by
    have numbers : rank (.integer 1) = rank (.float (.ofInt 1)) := rfl
    rw [order_of_rank_eq numbers, compare?_doubles rfl rfl (by simp [integer?]), word]
    exact compare_eq_iff_eq.2 rfl
  have second : order (.float (.ofInt 1)) (.date 1) = .eq := by
    rw [order_swap]
    exact congrArg Ordering.swap first
  refine ⟨first, second, fun greater => ?_⟩
  obtain ⟨-, outOfOrder, small⟩ := order_preorder (.integer 1) (.float (.ofInt 1)) (.date 1)
  have merged := outOfOrder.1 ⟨by simp [first], by simp [second], greater⟩
  exact small 1 1 rfl rfl (by decide) (by decide) merged

/-- Two integers are equal to the double that they are rounded to, but the first is greater. -/
theorem order_not_transitive :
    order (.integer 9007199254740993) (.float (.ofInt 9007199254740992)) ≠ .gt ∧
      order (.float (.ofInt 9007199254740992)) (.integer 9007199254740992) ≠ .gt ∧
      order (.integer 9007199254740993) (.integer 9007199254740992) = .gt := by
  have merged : Merged (.integer 9007199254740993) (.float (.ofInt 9007199254740992))
      (.integer 9007199254740992) := by
    refine ⟨_, _, rfl, rfl, ?_, rfl, by decide⟩
    have word : (9007199254740993 : Int64).toInt = 9007199254740993 := by decide
    rw [word, doubles_beyond.1]
  have outOfOrder := (order_merged_iff _ _ _).2 merged
  simpa only [← Ordering.ne_gt_iff_isLE, ne_eq, not_not] using outOfOrder

end ContentFinder.IndexValue
