import Mathlib.Data.Nat.Init
import ContentFinder.Proofs.Wildcards

/-! Rows that are filled entry by entry. Every entry is read and written by its number, and a number
beyond a row or beyond the text is a failure. The main statement says that there is no such failure,
and that a text matches a pattern just when it can be cut into runs that the parts of the pattern
stand for. -/

namespace ContentFinder.Text

/-- How a pattern is read, from left to right. A backslash at the end stands for itself. -/
inductive Reads : List Char → List PatternPart → Prop where
  | nothing : Reads [] []
  | star {rest parts} : Reads rest parts → Reads ('*' :: rest) (.anyRun :: parts)
  | mark {rest parts} : Reads rest parts → Reads ('?' :: rest) (.anyChar :: parts)
  | quoted {c rest parts} : Reads rest parts → Reads ('\\' :: c :: rest) (.exactly c :: parts)
  | lastSlash : Reads ['\\'] [.exactly '\\']
  | plain {c rest parts} : c ≠ '*' → c ≠ '?' → c ≠ '\\' → Reads rest parts →
      Reads (c :: rest) (.exactly c :: parts)

theorem reads_readPattern (pattern : List Char) : Reads pattern (readPattern pattern) := by
  fun_induction readPattern pattern with
  | case1 => exact .nothing
  | case2 rest ih => exact .star ih
  | case3 rest ih => exact .mark ih
  | case4 => exact .lastSlash
  | case5 c rest ih => exact .quoted ih
  | case6 c rest notStar notMark notLast notSlash ih =>
    apply Reads.plain notStar notMark _ ih
    -- A backslash is read with the character behind it, or it is the last character.
    rintro rfl
    cases rest with
    | nil => exact notLast rfl rfl
    | cons d rest => exact notSlash d rest rfl rfl

theorem Reads.readPattern_eq {pattern : List Char} {parts : List PatternPart}
    (reads : Reads pattern parts) : readPattern pattern = parts := by
  induction reads with
  | nothing => rfl
  | star _ ih => rw [readPattern, ih]
  | mark _ ih => rw [readPattern, ih]
  | quoted _ ih => rw [readPattern, ih]
  | lastSlash => rfl
  | plain notStar notMark notSlash _ ih =>
    rw [readPattern, ih]
    all_goals simp [notStar, notMark, notSlash]

/-! Filling a row. -/

def write? (row : List Bool) (place : Nat) (held : Bool) : Option (List Bool) :=
  if place < row.length then some (row.set place held) else none

/-- Makes the row after a part from the row before it. Every entry is false at first. -/
def PatternPart.fill? (part : PatternPart) (text : List Char) (row : List Bool) :
    Option (List Bool) :=
  let blank := List.replicate (text.length + 1) false
  match part with
  | .anyRun => do
    let (_, next) ← (List.range' 0 (text.length + 1)).foldlM (fun (reached, next) place => do
      let reached := reached || (← row[place]?)
      return (reached, ← write? next place reached)) (false, blank)
    return next
  | .anyChar => (List.range' 1 text.length).foldlM (fun next place => do
      write? next place (← row[place - 1]?)) blank
  | .exactly c => (List.range' 1 text.length).foldlM (fun next place => do
      -- The text is looked at only where the entry before is reached.
      if ← row[place - 1]? then write? next place ((← text[place - 1]?) == c)
      else write? next place false) blank

def matchesByPlace? (pattern : List PatternPart) (text : List Char) : Option Bool := do
  let start ← write? (List.replicate (text.length + 1) false) 0 true
  let row ← pattern.foldlM (fun row part => part.fill? text row) start
  row[text.length]?

/-- A row of which the first entries are made and the others are still false. -/
def filled (cells : List Bool) (done : Nat) : List Bool :=
  cells.take done ++ List.replicate (cells.length - done) false

theorem filled_full (cells : List Bool) : filled cells cells.length = cells := by
  simp [filled]

theorem write?_filled (cells : List Bool) {done : Nat} (inside : done < cells.length) :
    write? (filled cells done) done cells[done] = some (filled cells (done + 1)) := by
  have made : (cells.take done).length = done := List.length_take_of_le (by omega)
  have waiting : cells.length - done = (cells.length - (done + 1)) + 1 := by omega
  have within : done < (filled cells done).length := by
    simp [filled]
    omega
  rw [write?, if_pos within, filled, waiting, List.replicate_succ,
    List.set_append_right _ _ (by omega), made, Nat.sub_self, List.set_cons_zero, filled,
    ← List.take_append_getElem inside, List.append_assoc, List.singleton_append]

theorem foldlM_rounds {σ : Type} (round : σ → Nat → Option σ) (state : Nat → σ) {first last : Nat}
    (ordered : first ≤ last)
    (rounds : ∀ place, first ≤ place → place < last →
      round (state place) place = some (state (place + 1))) :
    (List.range' first (last - first)).foldlM round (state first) = some (state last) := by
  induction last, ordered using Nat.le_induction with
  | base => simp
  | succ last ordered ih =>
    have more : last + 1 - first = (last - first) + 1 := by omega
    have here : first + (last - first) = last := by omega
    have before := ih fun place low high => rounds place low (by omega)
    rw [more, List.range'_1_concat, here, List.foldlM_append, before]
    simp [rounds last ordered (Nat.lt_succ_self last)]

namespace PatternPart

variable {text : List Char} {row : List Bool}

theorem getElem_spread (reached : Bool) (row : List Bool) {place : Nat}
    (inside : place < (advance.spread reached row).length) :
    (advance.spread reached row)[place] = (reached || (row.take (place + 1)).any id) := by
  induction row generalizing reached place with
  | nil => simp [advance.spread] at inside
  | cons here rest ih =>
    cases place with
    | zero => simp [advance.spread]
    | succ place =>
      simp only [advance.spread, List.getElem_cons_succ]
      rw [ih, List.take_succ_cons, List.any_cons, id, Bool.or_assoc]

theorem fill?_anyRun (full : row.length = text.length + 1) :
    anyRun.fill? text row = some (anyRun.advance text row) := by
  have size : (advance.spread false row).length = text.length + 1 :=
    (length_spread false row).trans full
  have loop := foldlM_rounds
    (fun (reached, next) place => do
      let reached := reached || (← row[place]?)
      return (reached, ← write? next place reached))
    (fun done => ((row.take done).any id, filled (advance.spread false row) done))
    (Nat.zero_le (text.length + 1)) ?_
  · have blank : filled (advance.spread false row) 0 = List.replicate (text.length + 1) false := by
      simp [filled, size]
    simp only [blank, List.take_zero, List.any_nil, Nat.sub_zero] at loop
    simp only [fill?, loop]
    rw [← size, filled_full]
    rfl
  · intro place _ high
    have inRow : place < row.length := by omega
    have reached : ((row.take place).any id || row[place]) = (row.take (place + 1)).any id := by
      rw [← List.take_append_getElem inRow, List.any_append]
      simp
    have entry := getElem_spread false row (size.symm ▸ high)
    rw [Bool.false_or] at entry
    have written := write?_filled (advance.spread false row) (size.symm ▸ high)
    rw [entry] at written
    simp [List.getElem?_eq_getElem inRow, reached, written]

theorem foldlM_single {cells : List Bool} (size : cells.length = text.length)
    {round : List Bool → Nat → Option (List Bool)}
    (rounds : ∀ (next : List Bool) (place : Nat) (inside : place < cells.length),
      round next (place + 1) = write? next (place + 1) cells[place]) :
    (List.range' 1 text.length).foldlM round (List.replicate (text.length + 1) false) =
      some (false :: cells) := by
  have blank : List.replicate (text.length + 1) false = filled (false :: cells) 1 := by
    simp [filled, size, List.replicate_succ]
  have whole : filled (false :: cells) (text.length + 1) = false :: cells := by
    rw [← size]
    exact filled_full (false :: cells)
  have loop := foldlM_rounds round (filled (false :: cells))
    (Nat.le_add_left 1 text.length) ?_
  · rw [whole, Nat.add_sub_cancel] at loop
    rw [blank, loop]
  · intro place low high
    obtain ⟨place, rfl⟩ := Nat.exists_eq_add_of_le' low
    rw [rounds _ place (by omega)]
    exact write?_filled (false :: cells) (by simp; omega)

theorem fill?_eq (part : PatternPart) (full : row.length = text.length + 1) :
    part.fill? text row = some (part.advance text row) := by
  cases part with
  | anyRun => exact fill?_anyRun full
  | anyChar =>
    apply foldlM_single (by simp [full])
    intro next place inside
    have inRow : place < row.length := by simp at inside; omega
    simp [List.getElem?_eq_getElem inRow]
  | exactly c =>
    apply foldlM_single (by simp [full])
    intro next place inside
    have inText : place < text.length := by simp at inside; omega
    have inRow : place < row.length := by omega
    simp only [Nat.add_sub_cancel, List.getElem?_eq_getElem inRow, List.getElem?_eq_getElem inText,
      List.getElem_zipWith]
    cases row[place] <;> rfl

end PatternPart

theorem foldlM_fill? {text : List Char} {parts : List PatternPart} {row : List Bool}
    (rest : List PatternPart) (reaches : Reaches parts text row) :
    rest.foldlM (fun row part => part.fill? text row) row =
      some (rest.foldl (fun row part => part.advance text row) row) := by
  induction rest generalizing parts row with
  | nil => rfl
  | cons part rest ih =>
    rw [List.foldlM_cons, part.fill?_eq reaches.length]
    exact ih (reaches_advance reaches)

/-- Every entry that the matcher looks up or writes is there. -/
theorem matchesByPlace?_eq (pattern : List PatternPart) (text : List Char) :
    matchesByPlace? pattern text = some (matchesPattern pattern text) := by
  have start : write? (List.replicate (text.length + 1) false) 0 true =
      some (true :: List.replicate text.length false) := by
    simp [write?, List.replicate_succ]
  have last := (reaches_foldl pattern (reaches_start text)).length
  rw [matchesByPlace?, start, Option.bind_eq_bind, Option.bind_some,
    foldlM_fill? pattern (reaches_start text), Option.bind_some, matchesPattern,
    List.getLast?_eq_getElem?, last, Nat.add_sub_cancel, List.getElem?_eq_getElem (by omega),
    Option.getD_some]

/-- A pattern has one reading. The matcher finds every entry that it asks for, and it accepts the
texts that can be cut into runs which the parts of the pattern stand for, in order. -/
theorem wildcardMatches_exact (text pattern : String) :
    ∃ parts, (∀ other, Reads pattern.toList other ↔ other = parts) ∧
      matchesByPlace? parts text.toList = some (wildcardMatches text pattern) ∧
      (wildcardMatches text pattern = true ↔ Spells parts text.toList) := by
  refine ⟨readPattern pattern.toList, fun other => ?_, matchesByPlace?_eq _ _, matchesPattern_iff⟩
  constructor
  · intro reads
    exact reads.readPattern_eq.symm
  · rintro rfl
    exact reads_readPattern pattern.toList

end ContentFinder.Text
