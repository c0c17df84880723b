import Mathlib.Data.List.Basic
import ContentFinder.Text.Blank

/-! The pieces of a text between separators. What is read apart from the two sides of every
separator is read from the pieces, and when a text goes on, only its last piece can become longer. -/

namespace ContentFinder.Text

variable {separates : Char → Bool} {c : Char}

theorem splitOn_cons_of_pos (cut : separates c = true) (rest : List Char) :
    splitOn separates (c :: rest) = [] :: splitOn separates rest := by
  simp [splitOn, cut]

theorem splitOn_ne_nil (separates : Char → Bool) (text : List Char) :
    splitOn separates text ≠ [] := by
  cases text with
  | nil => simp [splitOn]
  | cons c rest => rw [splitOn]; split <;> simp

theorem exists_splitOn_cons (kept : separates c = false) (rest : List Char) :
    ∃ piece others, splitOn separates rest = piece :: others ∧
      splitOn separates (c :: rest) = (c :: piece) :: others := by
  obtain ⟨piece, others, split⟩ := List.exists_cons_of_ne_nil (splitOn_ne_nil separates rest)
  exact ⟨piece, others, split, by simp [splitOn, kept, split]⟩

theorem splitOn_append (cut : separates c = true) (front back : List Char) :
    splitOn separates (front ++ c :: back) = splitOn separates front ++ splitOn separates back := by
  induction front with
  | nil => exact splitOn_cons_of_pos cut back
  | cons d rest ih =>
    rw [List.cons_append]
    cases kept : separates d with
    | true => rw [splitOn_cons_of_pos kept, splitOn_cons_of_pos kept, ih, List.cons_append]
    | false =>
      obtain ⟨piece, others, split, longer⟩ := exists_splitOn_cons kept rest
      rw [longer, splitOn, kept, ih, split]
      rfl

theorem pieces_append (cut : separates c = true) (front back : List Char) :
    pieces separates (front ++ c :: back) = pieces separates front ++ pieces separates back := by
  rw [pieces, splitOn_append cut, List.filter_append]
  rfl

section Apart

variable {α : Type} {read : List Char → List α}
  (apart : ∀ front c back, separates c = true →
    read (front ++ c :: back) = read front ++ read back)

include apart

/-- The first piece of a text goes on with what stands in front of the text. -/
theorem read_append (front : List Char) {text piece : List Char} {others : List (List Char)}
    (split : splitOn separates text = piece :: others) :
    read (front ++ text) = read (front ++ piece) ++ others.flatMap read := by
  induction text generalizing front piece others with
  | nil =>
    cases split
    simp
  | cons c rest ih =>
    cases cut : separates c with
    | true =>
      obtain ⟨first, later, next⟩ := List.exists_cons_of_ne_nil (splitOn_ne_nil separates rest)
      have behind := ih [] next
      rw [splitOn_cons_of_pos cut, next] at split
      cases split
      rw [apart front c rest cut, List.append_nil, List.flatMap_cons]
      exact congrArg _ behind
    | false =>
      obtain ⟨first, later, next, longer⟩ := exists_splitOn_cons cut rest
      have behind := ih (front ++ [c]) next
      rw [longer] at split
      cases split
      rwa [List.append_assoc, List.append_assoc] at behind

/-- What is read apart from the two sides of every separator is read from the pieces. -/
theorem flatMap_pieces (empty : read [] = []) (text : List Char) :
    (pieces separates text).flatMap read = read text := by
  have kept : ∀ parts : List (List Char),
      (parts.filter (! ·.isEmpty)).flatMap read = parts.flatMap read := by
    intro parts
    induction parts with
    | nil => rfl
    | cons part rest ih => cases part <;> simp [ih, empty]
  obtain ⟨piece, others, split⟩ := List.exists_cons_of_ne_nil (splitOn_ne_nil separates text)
  rw [pieces, kept, split, List.flatMap_cons]
  exact (read_append apart [] split).symm

end Apart

/-! Texts without separators, and beginnings of texts. -/

theorem splitOn_of_free {text : List Char} (free : ∀ c ∈ text, separates c = false) :
    splitOn separates text = [text] := by
  induction text with
  | nil => rfl
  | cons c rest ih =>
    have kept := free c List.mem_cons_self
    have rested := ih fun d member => free d (List.mem_cons_of_mem c member)
    simp [splitOn, kept, rested]

theorem pieces_of_free {text : List Char} (free : ∀ c ∈ text, separates c = false)
    (some : text ≠ []) : pieces separates text = [text] := by
  simp [pieces, splitOn_of_free free, some]

theorem flatMap_filter_pieces (text : List Char) :
    (pieces separates text).flatMap (List.filter (! separates ·)) =
      text.filter (! separates ·) := by
  refine flatMap_pieces (fun front c back cut => ?_) rfl text
  rw [List.filter_append, List.filter_cons_of_neg (by simp [cut])]

theorem mem_of_mem_pieces {text piece : List Char} (member : piece ∈ pieces separates text)
    {c : Char} (inside : c ∈ piece) : c ∈ text := by
  have kept : separates c = false := pieces_free member c inside
  have held : c ∈ text.filter (! separates ·) := by
    rw [← flatMap_filter_pieces]
    exact List.mem_flatMap.2 ⟨piece, member, List.mem_filter.2 ⟨inside, by rw [kept]; rfl⟩⟩
  exact (List.mem_filter.1 held).1

theorem pieces_ne_nil {text : List Char} {c : Char} (member : c ∈ text)
    (kept : separates c = false) : pieces separates text ≠ [] := by
  intro none
  have held : c ∈ text.filter (! separates ·) := List.mem_filter.2 ⟨member, by rw [kept]; rfl⟩
  rw [← flatMap_filter_pieces, none] at held
  exact List.not_mem_nil held

/-- When a text goes on, its last piece can become longer, and all others stay. -/
theorem exists_splitOn_append (separates : Char → Bool) (front back : List Char) :
    ∃ whole last first later, splitOn separates front = whole ++ [last] ∧
      splitOn separates back = first :: later ∧
      splitOn separates (front ++ back) = whole ++ (last ++ first) :: later := by
  induction front with
  | nil =>
    obtain ⟨first, later, split⟩ := List.exists_cons_of_ne_nil (splitOn_ne_nil separates back)
    exact ⟨[], [], first, later, rfl, split, split⟩
  | cons c rest ih =>
    obtain ⟨whole, last, first, later, before, after, joined⟩ := ih
    cases cut : separates c with
    | true =>
      refine ⟨[] :: whole, last, first, later, ?_, after, ?_⟩
      · rw [splitOn_cons_of_pos cut, before, List.cons_append]
      · rw [List.cons_append, splitOn_cons_of_pos cut, joined, List.cons_append]
    | false =>
      cases whole with
      | nil => exact ⟨[], c :: last, first, later, by simp [splitOn, cut, before], after,
          by simp [splitOn, cut, joined]⟩
      | cons piece whole => exact ⟨(c :: piece) :: whole, last, first, later,
          by simp [splitOn, cut, before], after, by simp [splitOn, cut, joined]⟩

theorem exists_pieces_append {front : List Char} (some : pieces separates front ≠ [])
    (back : List Char) :
    ∃ whole last longer later, pieces separates front = whole ++ [last] ∧
      pieces separates (front ++ back) = whole ++ longer :: later ∧ last <+: longer := by
  obtain ⟨parts, last, first, others, before, -, joined⟩ :=
    exists_splitOn_append separates front back
  unfold pieces at some ⊢
  rw [before, List.filter_append] at some
  rw [before, joined, List.filter_append, List.filter_append]
  cases last with
  | nil =>
    -- The text ends with a separator, so its last piece is whole as well.
    rw [show List.filter (! ·.isEmpty) [[]] = ([] : List (List Char)) from rfl,
      List.append_nil] at some ⊢
    obtain none | ⟨whole, last, kept⟩ := List.eq_nil_or_concat' (parts.filter (! ·.isEmpty))
    · exact absurd none some
    · rw [kept]
      exact ⟨whole, last, last, _, rfl, List.append_assoc _ _ _, List.prefix_refl last⟩
  | cons c last =>
    exact ⟨_, c :: last, c :: last ++ first, _, rfl, rfl, List.prefix_append _ _⟩

end ContentFinder.Text
