import Mathlib.Data.List.Forall2
import ContentFinder.Text.Wildcard

/-! What wildcard patterns match. A text matches when it can be cut into runs, one for each part of
the pattern, and the rows of the matcher tell how far the parts so far can reach. -/

namespace ContentFinder.Text

def PatternPart.StandsFor : PatternPart → List Char → Prop
  | .anyRun, _ => True
  | .anyChar, run => ∃ c, run = [c]
  | .exactly c, run => run = [c]

/-- The text is a sequence of runs that the parts stand for, in order. -/
def Spells (parts : List PatternPart) (text : List Char) : Prop :=
  ∃ runs : List (List Char), runs.flatten = text ∧ List.Forall₂ PatternPart.StandsFor parts runs

variable {parts : List PatternPart} {part : PatternPart} {text : List Char}

theorem spells_nil : Spells [] text ↔ text = [] := by
  constructor
  · rintro ⟨runs, rfl, each⟩
    cases each
    rfl
  · rintro rfl
    exact ⟨[], rfl, .nil⟩

theorem spells_append_singleton :
    Spells (parts ++ [part]) text ↔
      ∃ before run, before ++ run = text ∧ Spells parts before ∧ part.StandsFor run := by
  constructor
  · rintro ⟨runs, rfl, each⟩
    have first := List.forall₂_take parts.length each
    have last := List.forall₂_drop parts.length each
    rw [List.take_left] at first
    rw [List.drop_left] at last
    obtain ⟨run, rest, stands, none, split⟩ := List.forall₂_cons_left_iff.1 last
    cases none
    refine ⟨_, run, ?_, ⟨_, rfl, first⟩, stands⟩
    conv_rhs => rw [← List.take_append_drop parts.length runs, split]
    simp
  · rintro ⟨before, run, rfl, ⟨runs, rfl, each⟩, stands⟩
    exact ⟨runs ++ [run], by simp, List.rel_append each (.cons stands .nil)⟩

theorem spells_append_anyRun :
    Spells (parts ++ [.anyRun]) text ↔
      ∃ count, count ≤ text.length ∧ Spells parts (text.take count) := by
  rw [spells_append_singleton]
  constructor
  · rintro ⟨before, run, rfl, spelled, -⟩
    exact ⟨before.length, by simp, by simpa using spelled⟩
  · rintro ⟨count, -, spelled⟩
    exact ⟨text.take count, text.drop count, List.take_append_drop _ _, spelled, trivial⟩

theorem spells_append_char {accepts : Char → Prop}
    (single : ∀ run, part.StandsFor run ↔ ∃ c, run = [c] ∧ accepts c) (before : List Char)
    (c : Char) : Spells (parts ++ [part]) (before ++ [c]) ↔ Spells parts before ∧ accepts c := by
  rw [spells_append_singleton]
  constructor
  · rintro ⟨front, run, same, spelled, stands⟩
    obtain ⟨last, rfl, accepted⟩ := (single run).1 stands
    obtain ⟨rfl, rfl⟩ := List.append_singleton_inj.1 same
    exact ⟨spelled, accepted⟩
  · rintro ⟨spelled, accepted⟩
    exact ⟨before, [c], rfl, spelled, (single [c]).2 ⟨c, rfl, accepted⟩⟩

theorem not_spells_append_char {accepts : Char → Prop}
    (single : ∀ run, part.StandsFor run ↔ ∃ c, run = [c] ∧ accepts c) :
    ¬Spells (parts ++ [part]) [] := by
  rw [spells_append_singleton]
  rintro ⟨before, run, same, -, stands⟩
  obtain ⟨c, rfl, -⟩ := (single run).1 stands
  exact List.append_ne_nil_of_right_ne_nil before (List.cons_ne_nil c []) same

/-! Rows. -/

/-- The row has a place for every beginning of the text, and says which ones the parts spell. -/
structure Reaches (parts : List PatternPart) (text : List Char) (row : List Bool) : Prop where
  length : row.length = text.length + 1
  place : ∀ count, count ≤ text.length → (row[count]? = some true ↔ Spells parts (text.take count))

namespace PatternPart

/-- What was reached stays reached. -/
theorem getElem?_spread (reached : Bool) (row : List Bool) (place : Nat) :
    (advance.spread reached row)[place]? = some true ↔ place < row.length ∧
      (reached = true ∨ ∃ earlier, earlier ≤ place ∧ row[earlier]? = some true) := by
  induction row generalizing reached place with
  | nil => simp [advance.spread]
  | cons here rest ih =>
    cases place with
    | zero => simp [advance.spread]
    | succ place =>
      have earlier : (here = true ∨ ∃ earlier, earlier ≤ place ∧ rest[earlier]? = some true) ↔
          ∃ earlier, earlier ≤ place + 1 ∧ (here :: rest)[earlier]? = some true := by
        constructor
        · rintro (rfl | ⟨earlier, within, held⟩)
          · exact ⟨0, by omega, rfl⟩
          · exact ⟨earlier + 1, by omega, held⟩
        · rintro ⟨earlier, within, held⟩
          cases earlier with
          | zero => exact .inl (by simpa using held)
          | succ earlier => exact .inr ⟨earlier, by omega, held⟩
      rw [advance.spread, List.getElem?_cons_succ, ih, List.length_cons, Nat.succ_lt_succ_iff,
        Bool.or_eq_true, or_assoc, earlier]

theorem length_spread (reached : Bool) (row : List Bool) :
    (advance.spread reached row).length = row.length := by
  induction row generalizing reached with
  | nil => rfl
  | cons here rest ih => rw [advance.spread, List.length_cons, ih, List.length_cons]

end PatternPart

variable {row : List Bool}

theorem reaches_anyRun (reaches : Reaches parts text row) :
    Reaches (parts ++ [.anyRun]) text (PatternPart.anyRun.advance text row) where
  length := (PatternPart.length_spread false row).trans reaches.length
  place count within := by
    rw [PatternPart.advance, PatternPart.getElem?_spread, spells_append_anyRun]
    have inRow : count < row.length := by
      rw [reaches.length]
      omega
    simp only [inRow, Bool.false_eq_true, true_and, false_or, List.length_take_of_le within]
    apply exists_congr
    intro earlier
    apply and_congr_right
    intro before
    rw [reaches.place earlier (Nat.le_trans before within), List.take_take, Nat.min_eq_left before]

theorem reaches_char (accepts : Char → Prop) {next : List Bool}
    (single : ∀ run, part.StandsFor run ↔ ∃ c, run = [c] ∧ accepts c)
    (reaches : Reaches parts text row) (length : next.length = text.length)
    (moves : ∀ (place : Nat) (inside : place < text.length),
      next[place]? = some true ↔ row[place]? = some true ∧ accepts text[place]) :
    Reaches (parts ++ [part]) text (false :: next) where
  length := by rw [List.length_cons, length]
  place count within := by
    cases count with
    | zero => simp [not_spells_append_char single]
    | succ place =>
      rw [List.getElem?_cons_succ, moves place within, reaches.place place (by omega),
        ← List.take_append_getElem within, spells_append_char single]

theorem reaches_advance (reaches : Reaches parts text row) :
    Reaches (parts ++ [part]) text (part.advance text row) := by
  cases part with
  | anyRun => exact reaches_anyRun reaches
  | anyChar =>
    refine reaches_char (fun _ => True) ?_ reaches ?_ ?_
    · simp [PatternPart.StandsFor]
    · simp [reaches.length]
    · intro place inside
      simp [inside]
  | exactly c =>
    refine reaches_char (fun d => d = c) ?_ reaches ?_ ?_
    · simp [PatternPart.StandsFor]
    · simp [reaches.length]
    · intro place inside
      have inRow : place < row.length := by
        rw [reaches.length]
        omega
      rw [List.getElem?_zipWith, List.getElem?_eq_getElem inRow, List.getElem?_eq_getElem inside]
      simp

theorem reaches_foldl (rest : List PatternPart) (reaches : Reaches parts text row) :
    Reaches (parts ++ rest) text (rest.foldl (fun row part => part.advance text row) row) := by
  -- The parts that were read grow at their end, so the induction is on those still to be read.
  induction rest generalizing parts row with
  | nil => rwa [List.append_nil]
  | cons part rest ih =>
    have next : Reaches (parts ++ [part]) text (part.advance text row) := reaches_advance reaches
    have later := ih next
    rwa [List.append_assoc] at later

theorem reaches_start (text : List Char) :
    Reaches [] text (true :: List.replicate text.length false) where
  length := by simp
  place count within := by
    rw [spells_nil]
    cases count with
    | zero => simp
    | succ count =>
      have nonempty : text ≠ [] := by
        rintro rfl
        simp at within
      simp [List.getElem?_replicate, nonempty]

theorem matchesPattern_iff {pattern : List PatternPart} :
    matchesPattern pattern text = true ↔ Spells pattern text := by
  have reaches := reaches_foldl pattern (reaches_start text)
  have atEnd := reaches.place text.length (Nat.le_refl _)
  rw [List.take_length, List.nil_append] at atEnd
  have told : ∀ held : Option Bool, held.getD false = true ↔ held = some true := by
    intro held
    cases held <;> simp
  rw [matchesPattern, List.getLast?_eq_getElem?, reaches.length, Nat.add_sub_cancel, told, atEnd]

/-! Escaped texts. -/

theorem spells_exactly {path : List Char} : Spells (path.map .exactly) text ↔ text = path := by
  constructor
  · rintro ⟨runs, rfl, each⟩
    rw [List.forall₂_map_left_iff] at each
    induction each with
    | nil => rfl
    | cons first later ih =>
      rw [List.flatten_cons, ih, first, List.singleton_append]
  · rintro rfl
    refine ⟨text.map fun c => [c], List.flatMap_singleton' text, ?_⟩
    rw [List.forall₂_map_left_iff, List.forall₂_map_right_iff]
    exact List.forall₂_same.2 fun _ _ => rfl

/-- An escaped text is read character by character, whatever stands in it. -/
theorem readPattern_escapeWildcards (path : List Char) :
    readPattern (escapeWildcards path ++ ['*']) = path.map .exactly ++ [.anyRun] := by
  induction path with
  | nil => rfl
  | cons c rest ih =>
    unfold escapeWildcards
    split
    · rw [List.cons_append, List.cons_append, readPattern, ih]
      rfl
    · rename_i plain
      rw [not_or, not_or] at plain
      obtain ⟨notStar, notMark, notSlash⟩ := plain
      rw [List.cons_append, readPattern, ih]
      · rfl
      all_goals simp [notStar, notMark, notSlash]

theorem wildcardMatches_escapeWildcards (text path : String) :
    wildcardMatches text (String.ofList (escapeWildcards path.toList ++ ['*'])) = true ↔
      path.toList <+: text.toList := by
  rw [wildcardMatches, matchesPattern_iff, String.toList_ofList, readPattern_escapeWildcards,
    spells_append_singleton]
  constructor
  · rintro ⟨before, run, same, spelled, -⟩
    rw [← spells_exactly.1 spelled]
    exact ⟨run, same⟩
  · rintro ⟨run, same⟩
    exact ⟨path.toList, run, same, spells_exactly.2 rfl, trivial⟩

end ContentFinder.Text
