import Mathlib.Algebra.Order.Ring.Nat
import Mathlib.Order.Compare
import Mathlib.Order.Monotone.Basic
import ContentFinder.Number.Binary

/-! Rounding to a format. The magnitudes of a format increase with their ranks, so a quotient of
units rounds to a rank that no magnitude between the two passes over. Rounding therefore keeps the
order of whole numbers, and a number of the format that differs from the rounded one lies on the
same side of both. -/

namespace ContentFinder.Number

namespace Format

variable {format : Format}

theorem span_pos (format : Format) : 0 < format.span :=
  Nat.two_pow_pos _

theorem one_pos (format : Format) : 0 < format.one :=
  Nat.two_pow_pos _

theorem one_eq (format : Format) : format.one = 2 ^ format.scale := rfl

theorem two_span (format : Format) : 2 * format.span = 2 ^ (format.fractionBits + 1) := by
  rw [Nat.pow_succ, Nat.mul_comm]
  rfl

/-! The magnitudes of ranks. -/

/-- Between two powers of two the magnitudes are multiples of one gap. The last of them is the next
power of two, which has the first rank with the next gap. -/
theorem unitsAt_add (exponent fraction : Nat) (within : fraction ≤ 2 * format.span)
    (normal : exponent = 0 ∨ format.span ≤ fraction) :
    format.unitsAt (exponent * format.span + fraction) = fraction * 2 ^ exponent := by
  have positive := format.span_pos
  unfold unitsAt
  rcases Nat.lt_or_ge fraction format.span with small | large
  · obtain rfl := normal.resolve_right (by omega)
    simp [Nat.div_eq_of_lt small]
  rcases Nat.lt_or_eq_of_le within with below | rfl
  · have split : exponent * format.span + fraction =
        (fraction - format.span) + format.span * (exponent + 1) := by
      rw [Nat.mul_succ, Nat.mul_comm]
      omega
    have quotient : (exponent * format.span + fraction) / format.span = exponent + 1 := by
      rw [split, Nat.add_mul_div_left _ _ positive, Nat.div_eq_of_lt (by omega), Nat.zero_add]
    have rest : (exponent * format.span + fraction) % format.span = fraction - format.span := by
      rw [split, Nat.add_mul_mod_self_left, Nat.mod_eq_of_lt (by omega)]
    rw [quotient, rest]
    simp [Nat.add_sub_cancel' large]
  · have split : exponent * format.span + 2 * format.span = format.span * (exponent + 2) := by
      rw [Nat.mul_add, Nat.mul_comm, Nat.mul_comm format.span 2]
    rw [split, Nat.mul_div_cancel_left _ positive, Nat.mul_mod_right, Nat.mul_right_comm,
      Nat.mul_comm _ format.span]
    simp [Nat.pow_succ, Nat.mul_comm 2]

theorem unitsAt_power (format : Format) (exponent : Nat) :
    format.unitsAt (exponent * format.span + 2 * format.span) =
      2 ^ (format.fractionBits + 1 + exponent) := by
  rw [unitsAt_add exponent _ (Nat.le_refl _) (.inr (by omega)), two_span, ← Nat.pow_add]

theorem exists_rank (format : Format) (rank : Nat) :
    ∃ exponent fraction, rank = exponent * format.span + fraction ∧
      fraction < 2 * format.span ∧ (exponent = 0 ∨ format.span ≤ fraction) := by
  have positive := format.span_pos
  have whole := Nat.div_add_mod' rank format.span
  have rest := Nat.mod_lt rank positive
  cases quotient : rank / format.span with
  | zero => exact ⟨0, rank % format.span, by rw [quotient] at whole; omega, by omega, .inl rfl⟩
  | succ exponent =>
    refine ⟨exponent, format.span + rank % format.span, ?_, by omega, .inr (by omega)⟩
    rw [quotient, Nat.succ_mul] at whole
    omega

theorem unitsAt_strictMono (format : Format) : StrictMono format.unitsAt := by
  apply strictMono_nat_of_lt_succ
  intro rank
  obtain ⟨exponent, fraction, rfl, below, normal⟩ := format.exists_rank rank
  rw [Nat.add_assoc, unitsAt_add exponent fraction (by omega) normal,
    unitsAt_add exponent (fraction + 1) (by omega) (normal.imp_right (by omega))]
  exact Nat.mul_lt_mul_of_pos_right (Nat.lt_succ_self _) (Nat.two_pow_pos _)

theorem unitsAt_le_iff {rank other : Nat} :
    format.unitsAt rank ≤ format.unitsAt other ↔ rank ≤ other :=
  format.unitsAt_strictMono.le_iff_le

theorem unitsAt_eq_zero {rank : Nat} : format.unitsAt rank = 0 ↔ rank = 0 := by
  have zero : format.unitsAt 0 = 0 := by simp [unitsAt]
  rw [← zero, format.unitsAt_strictMono.injective.eq_iff, zero]

def spare (format : Format) (units : Nat) : Nat :=
  units.log2 - format.fractionBits

theorem quotient_bounds (format : Format) (units : Nat) :
    units / 2 ^ format.spare units < 2 * format.span ∧
      (format.spare units = 0 ∨ format.span ≤ units / 2 ^ format.spare units) := by
  constructor
  · rw [Nat.div_lt_iff_lt_mul (Nat.two_pow_pos _), two_span, ← Nat.pow_add]
    exact Nat.lt_of_lt_of_le Nat.lt_log2_self
      (Nat.pow_le_pow_right (by decide) (by unfold spare; omega))
  · by_cases few : format.spare units = 0
    · exact .inl few
    · right
      have someUnits : units ≠ 0 := by
        rintro rfl
        simp [spare] at few
      have width : format.fractionBits + format.spare units = units.log2 := by
        unfold spare at few ⊢
        omega
      rw [Nat.le_div_iff_mul_le (Nat.two_pow_pos _)]
      change 2 ^ format.fractionBits * 2 ^ format.spare units ≤ units
      rw [← Nat.pow_add, width]
      exact Nat.log2_self_le someUnits

theorem unitsAt_rankBelow (format : Format) (units : Nat) :
    format.unitsAt (format.rankBelow units) =
      units / 2 ^ format.spare units * 2 ^ format.spare units := by
  have bounds := format.quotient_bounds units
  exact unitsAt_add (format.spare units) (units / 2 ^ format.spare units)
    (Nat.le_of_lt bounds.1) bounds.2

theorem rankBelow_le (format : Format) (units : Nat) :
    format.unitsAt (format.rankBelow units) ≤ units := by
  rw [unitsAt_rankBelow]
  exact Nat.div_mul_le_self _ _

theorem lt_rankBelow_succ (format : Format) (units : Nat) :
    units < format.unitsAt (format.rankBelow units + 1) := by
  have bounds := format.quotient_bounds units
  have next := unitsAt_add (format.spare units) (units / 2 ^ format.spare units + 1) bounds.1
    (bounds.2.imp_right (by omega))
  rw [← Nat.add_assoc] at next
  have gap : format.unitsAt (format.rankBelow units + 1) =
      (units / 2 ^ format.spare units + 1) * 2 ^ format.spare units := next
  rw [gap, Nat.mul_comm]
  exact Nat.lt_mul_div_succ units (Nat.two_pow_pos _)

/-- The magnitudes up to a number of units are those of the ranks up to the one below it. -/
theorem le_rankBelow_iff {rank units : Nat} :
    rank ≤ format.rankBelow units ↔ format.unitsAt rank ≤ units := by
  constructor
  · intro le
    exact Nat.le_trans (format.unitsAt_strictMono.monotone le) (format.rankBelow_le units)
  · intro le
    have below := Nat.lt_of_le_of_lt le (format.lt_rankBelow_succ units)
    exact Nat.lt_succ_iff.1 (format.unitsAt_strictMono.lt_iff_lt.1 below)

theorem unitsAt_rankBelow_whole {size : Nat} (fits : size ≤ 2 * format.span) :
    format.unitsAt (format.rankBelow (size * format.one)) = size * format.one := by
  rw [unitsAt_rankBelow]
  apply Nat.div_mul_cancel
  rw [two_span] at fits
  rcases Nat.lt_or_eq_of_le fits with below | rfl
  · refine Nat.dvd_trans (Nat.pow_dvd_pow 2 ?_) (Nat.dvd_mul_left format.one size)
    rcases Nat.eq_zero_or_pos size with rfl | positive
    · simp [spare]
    · have width : (size * format.one).log2 < format.fractionBits + 1 + format.scale := by
        rw [Nat.log2_lt (Nat.mul_pos positive format.one_pos).ne', Nat.pow_add, ← one_eq]
        exact Nat.mul_lt_mul_of_pos_right below format.one_pos
      unfold spare
      omega
  · rw [one_eq, ← Nat.pow_add]
    apply Nat.pow_dvd_pow
    rw [spare, Nat.log2_two_pow]
    omega

/-! The nearest rank. -/

section Nearest

variable {numerator other denominator : Nat} (positive : 0 < denominator)

/-- The nearest rank is the one below the quotient or the next, by the middle of the two. -/
theorem exists_nearest (format : Format) (numerator denominator : Nat) :
    ∃ nearest, format.nearestRank numerator denominator = min nearest format.infinityRank ∧
      let below := format.rankBelow (numerator / denominator)
      let middle := (format.unitsAt below + format.unitsAt (below + 1)) * denominator
      nearest = below ∧ 2 * numerator ≤ middle ∨ nearest = below + 1 ∧ middle ≤ 2 * numerator := by
  refine ⟨_, rfl, ?_⟩
  dsimp only
  split_ifs <;> omega

include positive

theorem le_rankBelow_div_iff {rank : Nat} :
    rank ≤ format.rankBelow (numerator / denominator) ↔
      format.unitsAt rank * denominator ≤ numerator := by
  rw [le_rankBelow_iff, Nat.le_div_iff_mul_le positive]

theorem le_nearestRank {rank : Nat} (inFormat : rank ≤ format.infinityRank)
    (reached : format.unitsAt rank * denominator ≤ numerator) :
    rank ≤ format.nearestRank numerator denominator := by
  obtain ⟨nearest, rounded, chosen⟩ := format.exists_nearest numerator denominator
  have below := (le_rankBelow_div_iff positive).2 reached
  rw [rounded]
  refine Nat.le_min.2 ⟨?_, inFormat⟩
  rcases chosen with ⟨rfl, -⟩ | ⟨rfl, -⟩
  · exact below
  · exact Nat.le_succ_of_le below

theorem nearestRank_le {rank : Nat} (covered : numerator ≤ format.unitsAt rank * denominator) :
    format.nearestRank numerator denominator ≤ rank := by
  obtain ⟨nearest, rounded, chosen⟩ := format.exists_nearest numerator denominator
  rw [rounded]
  refine Nat.le_trans (Nat.min_le_left _ _) ?_
  rcases chosen with ⟨rfl, -⟩ | ⟨rfl, passed⟩
  · have reached : format.unitsAt (format.rankBelow (numerator / denominator)) * denominator ≤
        numerator := (le_rankBelow_div_iff positive).1 (Nat.le_refl _)
    exact format.unitsAt_strictMono.le_iff_le.1
      (Nat.le_of_mul_le_mul_right (Nat.le_trans reached covered) positive)
  · by_contra short
    have lower : format.unitsAt rank ≤
        format.unitsAt (format.rankBelow (numerator / denominator)) :=
      format.unitsAt_strictMono.monotone (by omega)
    have step : format.unitsAt (format.rankBelow (numerator / denominator)) <
        format.unitsAt (format.rankBelow (numerator / denominator) + 1) :=
      format.unitsAt_strictMono (Nat.lt_succ_self _)
    have apart := Nat.mul_lt_mul_of_pos_right (Nat.add_lt_add_of_le_of_lt lower
      (Nat.lt_of_le_of_lt lower step)) positive
    rw [Nat.add_mul] at apart
    omega

theorem nearestRank_mono (le : numerator ≤ other) :
    format.nearestRank numerator denominator ≤ format.nearestRank other denominator := by
  rcases Nat.lt_or_eq_of_le le with less | rfl
  · obtain ⟨nearest, rounded, chosen⟩ := format.exists_nearest numerator denominator
    obtain ⟨further, otherRounded, otherChosen⟩ := format.exists_nearest other denominator
    have belows : format.rankBelow (numerator / denominator) ≤
        format.rankBelow (other / denominator) := by
      rw [le_rankBelow_div_iff positive]
      exact Nat.le_trans ((le_rankBelow_div_iff positive).1 (Nat.le_refl _)) le
    have nearests : nearest ≤ further := by
      -- Two quotients above the same rank are compared with one middle.
      rcases Nat.lt_or_eq_of_le belows with apart | same
      · omega
      · rw [← same] at otherChosen
        omega
    rw [rounded, otherRounded]
    omega
  · exact Nat.le_refl _

end Nearest

end Format

namespace Binary

variable {format : Format} {x y : Binary format} {number other : Int}

/-! Places and units. -/

section Signs

variable (rank : Nat)

theorem place_false : place (⟨false, rank⟩ : Binary format) = rank := rfl

theorem place_true : place (⟨true, rank⟩ : Binary format) = -1 - rank := rfl

theorem units_false : units (⟨false, rank⟩ : Binary format) = format.unitsAt rank := rfl

theorem units_true : units (⟨true, rank⟩ : Binary format) = -format.unitsAt rank := rfl

end Signs

def minusZero : Binary format := ⟨true, 0⟩

theorem units_zero : (zero : Binary format).units = 0 := by
  rw [zero, units_false, Format.unitsAt_eq_zero.2 rfl, Int.natCast_zero]

theorem units_minusZero : (minusZero : Binary format).units = 0 := by
  rw [minusZero, units_true, Format.unitsAt_eq_zero.2 rfl, Int.natCast_zero, Int.neg_zero]

theorem place_injective : Function.Injective (place : Binary format → Int) := by
  rintro ⟨negative, rank⟩ ⟨otherNegative, otherRank⟩ same
  cases negative <;> cases otherNegative <;> simp [place] at same ⊢ <;> omega

theorem units_mono (le : x.place ≤ y.place) : x.units ≤ y.units := by
  obtain ⟨_ | _, rank⟩ := x <;> obtain ⟨_ | _, otherRank⟩ := y <;>
    simp only [place_false, place_true, units_false, units_true] at le ⊢
  · have ranks := format.unitsAt_le_iff.2 (show rank ≤ otherRank by omega)
    omega
  · omega
  · omega
  · have ranks := format.unitsAt_le_iff.2 (show otherRank ≤ rank by omega)
    omega

theorem eq_of_units (same : x.units = y.units) :
    x = y ∨ x = zero ∧ y = minusZero ∨ x = minusZero ∧ y = zero := by
  have injective := format.unitsAt_strictMono.injective
  obtain ⟨_ | _, rank⟩ := x <;> obtain ⟨_ | _, otherRank⟩ := y <;>
    simp only [units_false, units_true] at same
  · obtain rfl := injective (by omega : format.unitsAt rank = format.unitsAt otherRank)
    exact .inl rfl
  · obtain rfl := format.unitsAt_eq_zero.1 (by omega : format.unitsAt rank = 0)
    obtain rfl := format.unitsAt_eq_zero.1 (by omega : format.unitsAt otherRank = 0)
    exact .inr (.inl ⟨rfl, rfl⟩)
  · obtain rfl := format.unitsAt_eq_zero.1 (by omega : format.unitsAt rank = 0)
    obtain rfl := format.unitsAt_eq_zero.1 (by omega : format.unitsAt otherRank = 0)
    exact .inr (.inr ⟨rfl, rfl⟩)
  · obtain rfl := injective (by omega : format.unitsAt rank = format.unitsAt otherRank)
    exact .inl rfl

/-- A comparison by places that follows the order of two whole numbers is theirs when it finds the
same equal. -/
theorem compareTotal_eq_iff {number other : Int} (up : number < other → x.place ≤ y.place)
    (down : other < number → y.place ≤ x.place) :
    x.compareTotal y = compare number other ↔ (x = y ↔ number = other) := by
  rw [← place_injective.eq_iff, compareTotal]
  rcases lt_trichotomy number other with less | rfl | greater
  · have place := up less
    rw [compare_lt_iff_lt.2 less, compare_lt_iff_lt]
    omega
  · simp
  · have place := down greater
    rw [compare_gt_iff_gt.2 greater, compare_gt_iff_gt]
    omega

/-! Whole numbers. -/

theorem place_ofInt (format : Format) (number : Int) : (ofInt number : Binary format).place =
    if number < 0 then -1 - (format.nearestRank (number.natAbs * format.one) 1 : Int)
    else format.nearestRank (number.natAbs * format.one) 1 := by
  simp [place, ofInt, ofRatio]

theorem isNaN_ofInt (format : Format) (number : Int) :
    (ofInt number : Binary format).isNaN = false := by
  rw [isNaN, decide_eq_false_iff_not, Nat.not_lt]
  exact Nat.min_le_right _ _

theorem place_ofInt_mono (le : number ≤ other) :
    (ofInt number : Binary format).place ≤ (ofInt other : Binary format).place := by
  have rounded : ∀ {small large : Int}, small.natAbs ≤ large.natAbs →
      format.nearestRank (small.natAbs * format.one) 1 ≤
        format.nearestRank (large.natAbs * format.one) 1 :=
    fun le => Format.nearestRank_mono Nat.one_pos (Nat.mul_le_mul_right _ le)
  rw [place_ofInt, place_ofInt]
  split_ifs with negative otherNegative
  · have ranks := rounded (show other.natAbs ≤ number.natAbs by omega)
    omega
  · omega
  · omega
  · have ranks := rounded (show number.natAbs ≤ other.natAbs by omega)
    omega

theorem mul_one_eq (format : Format) (number : Int) : number * format.one =
    if number < 0 then -((number.natAbs * format.one : Nat) : Int)
    else ((number.natAbs * format.one : Nat) : Int) := by
  split_ifs with negative
  · rw [Int.natCast_mul, Int.ofNat_natAbs_of_nonpos (by omega), Int.neg_mul, Int.neg_neg]
  · rw [Int.natCast_mul, Int.natAbs_of_nonneg (by omega)]

theorem natAbs_mul_one_eq_zero (format : Format) (number : Int) :
    number.natAbs * format.one = 0 ↔ number = 0 := by
  have positive := format.one_pos
  rw [Nat.mul_eq_zero, Int.natAbs_eq_zero]
  omega

theorem nearestRank_natAbs {rank : Nat} (inFormat : rank ≤ format.infinityRank) (number : Int) :
    (format.unitsAt rank ≤ number.natAbs * format.one →
      rank ≤ format.nearestRank (number.natAbs * format.one) 1) ∧
    (number.natAbs * format.one ≤ format.unitsAt rank →
      format.nearestRank (number.natAbs * format.one) 1 ≤ rank) := by
  constructor
  · intro reached
    exact Format.le_nearestRank Nat.one_pos inFormat (by rwa [Nat.mul_one])
  · intro covered
    exact Format.nearestRank_le Nat.one_pos (by rwa [Nat.mul_one])

theorem units_ofInt (fits : number.natAbs ≤ 2 * format.span)
    (inFormat : 2 * format.span * format.one ≤ format.unitsAt format.infinityRank) :
    (ofInt number : Binary format).units = number * format.one := by
  have exact := Format.unitsAt_rankBelow_whole fits
  have within : format.rankBelow (number.natAbs * format.one) ≤ format.infinityRank := by
    rw [← Format.unitsAt_le_iff, exact]
    exact Nat.le_trans (Nat.mul_le_mul_right _ fits) inFormat
  obtain ⟨reached, covered⟩ := nearestRank_natAbs within number
  have rounded : format.nearestRank (number.natAbs * format.one) 1 =
      format.rankBelow (number.natAbs * format.one) :=
    Nat.le_antisymm (covered exact.ge) (reached exact.le)
  rw [mul_one_eq, ofInt, ofRatio, rounded, units, magnitude, exact]
  simp only [decide_eq_true_eq]

section Number

variable (isNumber : x.isNaN = false)

include isNumber

theorem rank_le_infinityRank : x.rank ≤ format.infinityRank := by
  simpa [isNaN] using isNumber

theorem place_le_ofInt (le : x.units ≤ number * format.one) :
    x.place ≤ (ofInt number : Binary format).place := by
  obtain ⟨reached, covered⟩ := nearestRank_natAbs (rank_le_infinityRank isNumber) number
  have nothing := natAbs_mul_one_eq_zero format number
  rw [mul_one_eq] at le
  rw [place_ofInt]
  obtain ⟨_ | _, rank⟩ := x <;> simp only [place_false, place_true, units_false, units_true] at *
    <;> split_ifs at le ⊢ <;> omega

theorem ofInt_place_le (less : number * format.one < x.units) :
    (ofInt number : Binary format).place ≤ x.place := by
  obtain ⟨reached, covered⟩ := nearestRank_natAbs (rank_le_infinityRank isNumber) number
  rw [mul_one_eq] at less
  rw [place_ofInt]
  obtain ⟨_ | _, rank⟩ := x <;> simp only [place_false, place_true, units_false, units_true] at *
    <;> split_ifs at less ⊢ <;> omega

theorem ofInt_eq (same : number * format.one = x.units) :
    ofInt number = x ∨ number = 0 ∧ x = minusZero := by
  obtain ⟨reached, covered⟩ := nearestRank_natAbs (rank_le_infinityRank isNumber) number
  have nothing := natAbs_mul_one_eq_zero format number
  have least : format.unitsAt x.rank = 0 ↔ x.rank = 0 := format.unitsAt_eq_zero
  rw [mul_one_eq] at same
  rw [← place_injective.eq_iff, ← place_injective.eq_iff, place_ofInt, minusZero, place_true]
  obtain ⟨_ | _, rank⟩ := x <;> simp only [place_false, place_true, units_false, units_true] at *
    <;> split_ifs at same ⊢ <;> omega

end Number

end Binary

end ContentFinder.Number
