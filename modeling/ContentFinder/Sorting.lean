/-! Stable sorting by insertion. Every item moves forward past the items it must precede and past
no other, so items that neither precede the other keep their order. -/

namespace ContentFinder.Sorting

variable {α : Type}

/-- Adds an item to a list kept last item first. -/
def insertLast (before : α → α → Bool) (item : α) : List α → List α
  | [] => [item]
  | last :: rest =>
    if before item last then last :: insertLast before item rest else item :: last :: rest

def sortBy (before : α → α → Bool) (items : List α) : List α :=
  (items.foldl (fun sorted item => insertLast before item sorted) []).reverse

theorem insertLast_perm (before : α → α → Bool) (item : α) (sorted : List α) :
    (insertLast before item sorted).Perm (item :: sorted) := by
  induction sorted with
  | nil => exact .refl _
  | cons last rest ih =>
    unfold insertLast
    split
    · exact (ih.cons last).trans (.swap item last rest)
    · exact .refl _

theorem sortBy_perm (before : α → α → Bool) (items : List α) :
    (sortBy before items).Perm items := by
  suffices h : ∀ kept : List α,
      (items.foldl (fun sorted item => insertLast before item sorted) kept).Perm (items ++ kept) by
    simpa [sortBy] using (List.reverse_perm _).trans (h [])
  induction items with
  | nil => exact fun kept => .refl _
  | cons item rest ih =>
    intro kept
    exact (ih _).trans (((insertLast_perm before item kept).append_left rest).trans
      List.perm_middle)

section Map

variable {β : Type} {f : α → β} {before : α → α → Bool} {after : β → β → Bool}
  (agree : ∀ x y, before x y = after (f x) (f y))

include agree

theorem map_insertLast (item : α) (sorted : List α) :
    (insertLast before item sorted).map f = insertLast after (f item) (sorted.map f) := by
  induction sorted with
  | nil => rfl
  | cons last rest ih =>
    rw [insertLast, List.map_cons, insertLast, ← agree]
    split
    · rw [List.map_cons, ih]
    · rfl

theorem map_sortBy (items : List α) : (sortBy before items).map f = sortBy after (items.map f) := by
  rw [sortBy, sortBy, List.map_reverse, List.foldl_map]
  congr 1
  exact (List.foldl_hom (List.map f) fun kept item => (map_insertLast agree item kept).symm).symm

end Map

end ContentFinder.Sorting
