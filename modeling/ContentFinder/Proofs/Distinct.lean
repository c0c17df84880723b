import Mathlib.Data.List.Induction
import Mathlib.Data.List.Nodup
import ContentFinder.Index.Query

/-! Lists without repetitions, and items in groups. Each item of such a list stands at its first
place. Items that are grouped by different keys keep their order within a group, and are otherwise
rearranged by the keys alone. -/

namespace ContentFinder

namespace IndexQuery

variable {α β : Type} [DecidableEq α]

theorem foldl_distinct (items kept : List α) :
    items.foldl (fun kept item => if item ∈ kept then kept else kept ++ [item]) kept =
      kept ++ (items.filter (· ∉ kept)).eraseDups := by
  induction items generalizing kept with
  | nil => simp
  | cons item rest ih =>
    rw [List.foldl_cons, ih]
    by_cases known : item ∈ kept
    · simp [known]
    · have fewer : rest.filter (· ∉ kept ++ [item]) =
          (rest.filter (· ∉ kept)).filter fun other => !other == item := by
        rw [List.filter_filter]
        congr 1
        funext other
        simp [not_or, Bool.and_comm, Bool.beq_eq_decide_eq]
      rw [if_neg known, fewer, List.append_assoc, List.filter_cons, if_pos (by simpa using known),
        List.eraseDups_cons, List.singleton_append]

theorem distinct_eq_eraseDups (items : List α) : distinct items = items.eraseDups := by
  rw [distinct, foldl_distinct, List.nil_append]
  simp

theorem mem_distinct {item : α} {items : List α} : item ∈ distinct items ↔ item ∈ items := by
  rw [distinct_eq_eraseDups, List.mem_eraseDups]

theorem distinct_append_singleton (items : List α) (item : α) :
    distinct (items ++ [item]) =
      if item ∈ items then distinct items else distinct items ++ [item] := by
  have known : item ∈ distinct items ↔ item ∈ items := mem_distinct
  rw [distinct, List.foldl_append, ← distinct, List.foldl_cons, List.foldl_nil]
  exact if_congr known rfl rfl

theorem distinct_pairwise (items : List α) :
    (distinct items).Pairwise fun x y => items.idxOf x < items.idxOf y := by
  induction items using List.reverseRecOn with
  | nil => exact .nil
  | append_singleton items item ih =>
    have earlier : ∀ x ∈ items, (items ++ [item]).idxOf x = items.idxOf x := fun x member =>
      List.idxOf_append_of_mem member
    have before : (distinct items).Pairwise fun x y =>
        (items ++ [item]).idxOf x < (items ++ [item]).idxOf y := by
      apply ih.imp_of_mem
      intro x y xMember yMember less
      rwa [earlier x (mem_distinct.1 xMember), earlier y (mem_distinct.1 yMember)]
    rw [distinct_append_singleton]
    split_ifs with known
    · exact before
    · rw [List.pairwise_append]
      refine ⟨before, List.pairwise_singleton _ _, fun x xMember y yMember => ?_⟩
      rw [List.mem_singleton.1 yMember, earlier x (mem_distinct.1 xMember),
        List.idxOf_append_of_notMem known, List.idxOf_cons_self, Nat.add_zero]
      exact List.idxOf_lt_length_of_mem (mem_distinct.1 xMember)

theorem nodup_distinct (items : List α) : (distinct items).Nodup := by
  apply (distinct_pairwise items).imp
  intro x y less same
  rw [same] at less
  exact Nat.lt_irrefl _ less

theorem findSome?_distinct (f : α → Option β) (items : List α) :
    (distinct items).findSome? f = items.findSome? f := by
  induction items using List.reverseRecOn with
  | nil => rfl
  | append_singleton items item ih =>
    rw [distinct_append_singleton, List.findSome?_append, ← ih]
    split_ifs with known
    · cases found : (distinct items).findSome? f with
      | some value => rfl
      | none =>
        have nothing := List.findSome?_eq_none_iff.1 found item (mem_distinct.2 known)
        simp [nothing]
    · rw [List.findSome?_append]

end IndexQuery

section Groups

variable {α κ : Type} [DecidableEq κ] {keys : List κ} (distinct : keys.Nodup) (key : α → κ)
  (items : List α)

include distinct

/-- Items grouped by different keys are the items with one of the keys. -/
theorem perm_flatMap_filter :
    (keys.flatMap fun k => items.filter (key · == k)).Perm
      (items.filter fun item => key item ∈ keys) := by
  induction keys with
  | nil => simp
  | cons first rest ih =>
    obtain ⟨fresh, others⟩ := List.nodup_cons.1 distinct
    have parts := List.filter_append_perm (key · == first)
      (items.filter fun item => key item ∈ first :: rest)
    have here : (items.filter fun item => key item ∈ first :: rest).filter (key · == first) =
        items.filter (key · == first) := by
      rw [List.filter_filter]
      apply List.filter_congr
      intro item _
      by_cases same : key item = first <;> simp [same]
    have later : (items.filter fun item => key item ∈ first :: rest).filter
        (fun item => !(key item == first)) = items.filter fun item => key item ∈ rest := by
      rw [List.filter_filter]
      apply List.filter_congr
      intro item _
      by_cases same : key item = first
      · simp [same, fresh]
      · simp [same]
    rw [here, later] at parts
    rw [List.flatMap_cons]
    exact ((ih others).append_left _).trans parts

theorem filter_flatMap_filter {wanted : κ} (listed : wanted ∈ keys) :
    (keys.flatMap fun k => items.filter (key · == k)).filter (key · == wanted) =
      items.filter (key · == wanted) := by
  have apart : ∀ k, k ≠ wanted → (items.filter (key · == k)).filter (key · == wanted) = [] := by
    intro k different
    rw [List.filter_filter, List.filter_eq_nil_iff]
    intro item _
    simp only [Bool.and_eq_true, beq_iff_eq, not_and]
    intro same other
    exact different (other.symm.trans same)
  induction keys with
  | nil => cases listed
  | cons first rest ih =>
    obtain ⟨fresh, others⟩ := List.nodup_cons.1 distinct
    rw [List.flatMap_cons, List.filter_append]
    by_cases same : first = wanted
    · subst same
      have none : (rest.flatMap fun k => items.filter (key · == k)).filter (key · == first) = [] := by
        rw [List.filter_flatMap, List.flatMap_eq_nil_iff]
        intro k member
        exact apart k fun same => fresh (same ▸ member)
      rw [none, List.append_nil, List.filter_filter]
      simp only [Bool.and_self]
    · rw [apart first same, List.nil_append]
      exact ih others ((List.mem_cons.1 listed).resolve_left (Ne.symm same))

end Groups

end ContentFinder
