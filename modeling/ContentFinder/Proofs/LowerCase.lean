import ContentFinder.Text.Token

/-! How the lower-case form of a text depends on what stands around it. Only the two forms of a
capital sigma tell places apart, and they look no further than the nearest separator: a text is
lowered piece by piece between separators. -/

namespace ContentFinder.Text

def isIgnorable (c : Char) : Bool :=
  inRanges caseIgnorableRanges c

def isCased (c : Char) : Bool :=
  inRanges casedRanges c

variable {text : List Char} {c separator : Char}

/-! The search for a letter with a case. -/

theorem meetsCased_cons (c : Char) (rest : List Char) :
    meetsCased (c :: rest) = if isIgnorable c then meetsCased rest else isCased c := by
  unfold isIgnorable
  rw [meetsCased, List.dropWhile_cons]
  by_cases skipped : inRanges caseIgnorableRanges c = true
  · rw [if_pos skipped, if_pos skipped]
    rfl
  · rw [if_neg skipped, if_neg skipped]
    rfl

theorem meetsCased_append (front back : List Char) :
    meetsCased (front ++ back) =
      if front.all isIgnorable then meetsCased back else meetsCased front := by
  induction front with
  | nil => rfl
  | cons c rest ih =>
    rw [List.cons_append, meetsCased_cons, meetsCased_cons, ih, List.all_cons]
    by_cases skipped : isIgnorable c = true <;> simp [skipped]

theorem meetsCased_of_all (ignored : text.all isIgnorable = true) : meetsCased text = false := by
  have found := meetsCased_append text []
  rwa [List.append_nil, if_pos ignored] at found

/-! Texts within others. -/

def lowerAt (before : List Char) (c : Char) (after : List Char) : List Char :=
  if c = 'Σ' then [lowerSigma before after] else lowerChar c

theorem lowerAfter_cons (before : List Char) (c : Char) (rest : List Char) :
    lowerAfter before (c :: rest) = lowerAt before c rest ++ lowerAfter (c :: before) rest :=
  rfl

/-- The form of the first text where the second one follows. -/
def lowerWithin (before : List Char) : List Char → List Char → List Char
  | [], _ => []
  | c :: rest, back => lowerAt before c (rest ++ back) ++ lowerWithin (c :: before) rest back

theorem lowerAfter_append (before front back : List Char) :
    lowerAfter before (front ++ back) =
      lowerWithin before front back ++ lowerAfter (front.reverse ++ before) back := by
  induction front generalizing before with
  | nil => rfl
  | cons c rest ih =>
    rw [List.cons_append, lowerAfter_cons, ih, lowerWithin, List.reverse_cons, List.append_assoc,
      List.append_assoc, List.singleton_append]

theorem lowerWithin_nil (before text : List Char) :
    lowerWithin before text [] = lowerAfter before text := by
  have whole := lowerAfter_append before text []
  rw [List.append_nil, lowerAfter, List.append_nil] at whole
  exact whole.symm

theorem lower_append (front back : List Char) :
    lower (front ++ back) = lowerWithin [] front back ++ lowerAfter front.reverse back := by
  rw [lower, lowerAfter_append, List.append_nil]

theorem length_lowerAt (before : List Char) (c : Char) (after other : List Char) :
    (lowerAt before c after).length = (lowerAt before c other).length := by
  unfold lowerAt
  split <;> rfl

theorem length_lowerWithin (before front back other : List Char) :
    (lowerWithin before front back).length = (lowerWithin before front other).length := by
  induction front generalizing before with
  | nil => rfl
  | cons c rest ih =>
    rw [lowerWithin, lowerWithin, List.length_append, List.length_append, ih,
      length_lowerAt before c _ (rest ++ other)]

/-! Separators. -/

/-- A character that is no part of a word, has no lower-case form of its own, and ends every search
for a letter. -/
structure Separates (c : Char) : Prop where
  notAlphanumeric : isAlphanumeric c = false
  notIgnorable : isIgnorable c = false
  notCased : isCased c = false
  notSigma : c ≠ 'Σ'
  lowered : lowerChar c = [c]

def areApart (ranges others : List CodeRange) : Bool :=
  ranges.all fun range => others.all fun other => range.2.blt other.1 || other.2.blt range.1

theorem not_inRanges_of_areApart {ranges others : List CodeRange}
    (apart : areApart ranges others = true) (inside : inRanges ranges c = true) :
    inRanges others c = false := by
  obtain ⟨range, member, found⟩ := List.any_eq_true.1 inside
  apply Bool.eq_false_iff.2
  intro shared
  obtain ⟨other, also, held⟩ := List.any_eq_true.1 shared
  have split := List.all_eq_true.1 (List.all_eq_true.1 apart range member) other also
  simp only [Bool.and_eq_true, decide_eq_true_eq] at found held
  simp only [Bool.or_eq_true, Nat.blt_eq] at split
  omega

def separatorRanges : List CodeRange :=
  ('*'.toNat, '*'.toNat) :: blankRanges

def lowerRanges : List CodeRange :=
  lowerRuns.map fun run => (run.first, run.last)

theorem lowerChar_of_not_holds (notDotted : c ≠ 'İ')
    (unheld : ∀ run ∈ lowerRuns, run.holds c.toNat = false) : lowerChar c = [c] := by
  have none : lowerRuns.find? (·.holds c.toNat) = none := by
    apply List.find?_eq_none.2
    intro run member
    rw [unheld run member]
    exact Bool.false_ne_true
  rw [lowerChar, if_neg notDotted, none]

theorem lowerChar_of_not_inRanges (notDotted : c ≠ 'İ') (outside : inRanges lowerRanges c = false) :
    lowerChar c = [c] := by
  apply lowerChar_of_not_holds notDotted
  intro run member
  apply Bool.eq_false_iff.2
  intro held
  have found : inRanges lowerRanges c = true := by
    apply List.any_eq_true.2
    refine ⟨_, List.mem_map_of_mem member, ?_⟩
    simp only [CaseRun.holds, Bool.and_eq_true] at held ⊢
    exact held.1
  rw [outside] at found
  cases found

theorem separates_of_inRanges (inside : inRanges separatorRanges c = true) : Separates c := by
  have noLetter : inRanges lowerRanges c = false :=
    not_inRanges_of_areApart (by decide +kernel) inside
  have notDotted : c ≠ 'İ' := by
    rintro rfl
    revert inside
    decide
  refine ⟨not_inRanges_of_areApart (by decide +kernel) inside,
    not_inRanges_of_areApart (by decide +kernel) inside,
    not_inRanges_of_areApart (by decide +kernel) inside, ?_,
    lowerChar_of_not_inRanges notDotted noLetter⟩
  rintro rfl
  revert inside
  decide

theorem separates_of_isBlank (blank : isBlank c = true) : Separates c := by
  apply separates_of_inRanges
  rw [inRanges, separatorRanges, List.any_cons, Bool.or_eq_true]
  exact .inr blank

theorem separates_star : Separates '*' :=
  separates_of_inRanges (by decide)

theorem meetsCased_separator (separates : Separates separator) (front back : List Char) :
    meetsCased (front ++ separator :: back) = meetsCased front := by
  have stopped : meetsCased (separator :: back) = false := by
    simp [meetsCased_cons, separates.notIgnorable, separates.notCased]
  rw [meetsCased_append]
  split
  · rename_i ignored
    rw [stopped, meetsCased_of_all ignored]
  · rfl

/-- What follows a separator does not count before it. -/
theorem lowerWithin_separator (separates : Separates separator) (before front back : List Char) :
    lowerWithin before front (separator :: back) = lowerAfter before front := by
  rw [← lowerWithin_nil]
  induction front generalizing before with
  | nil => rfl
  | cons c rest ih =>
    have same : lowerAt before c (rest ++ separator :: back) = lowerAt before c (rest ++ []) := by
      simp only [lowerAt, lowerSigma, meetsCased_separator separates, List.append_nil]
    rw [lowerWithin, lowerWithin, same, ih]

/-- What stands before a separator does not count after it. -/
theorem lowerAfter_separator (separates : Separates separator) (front back : List Char) :
    lowerAfter (front ++ separator :: back) text = lowerAfter front text := by
  induction text generalizing front with
  | nil => rfl
  | cons c rest ih =>
    have same : lowerAt (front ++ separator :: back) c rest = lowerAt front c rest := by
      simp only [lowerAt, lowerSigma, meetsCased_separator separates]
    have later : lowerAfter (c :: (front ++ separator :: back)) rest =
        lowerAfter (c :: front) rest := ih (c :: front)
    rw [lowerAfter_cons, lowerAfter_cons, same, later]

/-- A text is lowered apart on the two sides of a separator. -/
theorem lower_separator (separates : Separates separator) (front back : List Char) :
    lower (front ++ separator :: back) = lower front ++ separator :: lower back := by
  have alone : lowerAt front.reverse separator back = [separator] := by
    rw [lowerAt, if_neg separates.notSigma, separates.lowered]
  have fresh : lowerAfter (separator :: front.reverse) back = lower back :=
    lowerAfter_separator separates [] front.reverse
  rw [lower_append, lowerWithin_separator separates, lowerAfter_cons, alone, fresh]
  rfl

/-! Letters and numbers. -/

def covers (ranges : List CodeRange) (first last : Nat) : Bool :=
  ranges.any fun range => range.1.ble first && last.ble range.2

theorem isValidChar_of_mem {range : CodeRange} (member : range ∈ alphanumericRanges) {code : Nat}
    (low : range.1 ≤ code) (high : code ≤ range.2) : code.isValidChar := by
  have valid : ∀ range ∈ alphanumericRanges,
      range.2 < 0xD800 ∨ 0xDFFF < range.1 ∧ range.2 < 0x110000 := by decide +kernel
  rcases valid range member with low | high
  · exact .inl (by omega)
  · exact .inr (by omega)

section Covered

variable {first last code : Nat} (covered : covers alphanumericRanges first last = true)
  (low : first ≤ code) (high : code ≤ last)

include covered low high

theorem toNat_ofNat_of_covers : (Char.ofNat code).toNat = code := by
  obtain ⟨range, member, found⟩ := List.any_eq_true.1 covered
  simp only [Bool.and_eq_true, Nat.ble_eq] at found
  have valid : code.isValidChar := isValidChar_of_mem member (by omega) (by omega)
  rw [Char.ofNat, dif_pos valid]
  rfl

theorem isAlphanumeric_ofNat : isAlphanumeric (Char.ofNat code) = true := by
  obtain ⟨range, member, found⟩ := List.any_eq_true.1 covered
  simp only [Bool.and_eq_true, Nat.ble_eq] at found
  apply List.any_eq_true.2
  refine ⟨range, member, ?_⟩
  rw [toNat_ofNat_of_covers covered low high]
  simp only [Bool.and_eq_true, decide_eq_true_eq]
  omega

end Covered

/-- The lower-case forms of letters are letters. -/
theorem covers_lowerRuns : ∀ run ∈ lowerRuns, covers alphanumericRanges
    (run.first + run.shift).toNat (run.last + run.shift).toNat = true := by
  decide +kernel

theorem isAlphanumeric_lowerChar (letter : isAlphanumeric c = true) (plain : c ≠ 'İ') :
    ∃ d, lowerChar c = [d] ∧ isAlphanumeric d = true := by
  rw [lowerChar, if_neg plain]
  split
  · rename_i run found
    refine ⟨_, rfl, ?_⟩
    have held := List.find?_some found
    simp only [CaseRun.holds, Bool.and_eq_true, decide_eq_true_eq] at held
    have covered := covers_lowerRuns run (List.mem_of_find?_eq_some found)
    exact isAlphanumeric_ofNat covered (by omega) (by omega)
  · exact ⟨c, rfl, letter⟩

theorem isAlphanumeric_lowerSigma (before after : List Char) :
    isAlphanumeric (lowerSigma before after) = true := by
  unfold lowerSigma
  split <;> decide +kernel

theorem isAlphanumeric_lowerAt (letter : isAlphanumeric c = true) (plain : c ≠ 'İ')
    (before after : List Char) :
    ∃ d, lowerAt before c after = [d] ∧ isAlphanumeric d = true := by
  unfold lowerAt
  split
  · exact ⟨_, rfl, isAlphanumeric_lowerSigma before after⟩
  · exact isAlphanumeric_lowerChar letter plain

/-- The dotted capital is the one letter with a mark in its lower-case form. -/
theorem isAlphanumeric_lowerAfter (letters : ∀ c ∈ text, isAlphanumeric c = true)
    (plain : 'İ' ∉ text) (before : List Char) :
    ∀ d ∈ lowerAfter before text, isAlphanumeric d = true := by
  induction text generalizing before with
  | nil => exact fun d member => absurd member List.not_mem_nil
  | cons c rest ih =>
    rw [List.mem_cons, not_or] at plain
    obtain ⟨form, lowered, letter⟩ :=
      isAlphanumeric_lowerAt (letters c List.mem_cons_self) (Ne.symm plain.1) before rest
    have rested := ih (fun d member => letters d (List.mem_cons_of_mem c member)) plain.2
    intro d member
    rw [lowerAfter_cons, lowered, List.singleton_append, List.mem_cons] at member
    rcases member with rfl | later
    · exact letter
    · exact rested (c :: before) d later

theorem exists_isAlphanumeric_lowerAt (letter : isAlphanumeric c = true)
    (before after : List Char) :
    ∃ d ∈ lowerAt before c after, isAlphanumeric d = true := by
  by_cases dotted : c = 'İ'
  · subst dotted
    exact ⟨'i', by simp [lowerAt, lowerChar], by decide +kernel⟩
  · obtain ⟨d, lowered, kept⟩ := isAlphanumeric_lowerAt letter dotted before after
    exact ⟨d, by simp [lowered], kept⟩

end ContentFinder.Text
