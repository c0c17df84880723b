import ContentFinder.Lowering.Basic
import ContentFinder.Proofs.Matching
import ContentFinder.Proofs.Outcome

/-! The lowering of a tree of criteria is that of its leaves, put together as the tree says. It
fails when a leaf does, and then as the first such leaf; and the query of a tree matches when the
tree holds of what the queries of its leaves match. -/

namespace ContentFinder.Criterion

open Outcome

mutual

def leaves : Criterion → List Criterion
  | .matchAll | .matchNone => []
  | .allOf children | .anyOf children => leavesOf children
  | .notOf child => leaves child
  | leaf => [leaf]

def leavesOf : List Criterion → List Criterion
  | [] => []
  | child :: rest => leaves child ++ leavesOf rest

end

mutual

/-- The truth of the tree, given which of its leaves hold. -/
def truth (holds : Criterion → Bool) : Criterion → Bool
  | .matchAll => true
  | .matchNone => false
  | .allOf children => everyTruth holds children
  | .anyOf children => someTruth holds children
  | .notOf child => !truth holds child
  | leaf => holds leaf

def everyTruth (holds : Criterion → Bool) : List Criterion → Bool
  | [] => true
  | child :: rest => truth holds child && everyTruth holds rest

def someTruth (holds : Criterion → Bool) : List Criterion → Bool
  | [] => false
  | child :: rest => truth holds child || someTruth holds rest

end

theorem leavesOf_eq_flatMap (children : List Criterion) :
    leavesOf children = children.flatMap leaves := by
  induction children with
  | nil => rfl
  | cons child rest ih => rw [leavesOf, ih, List.flatMap_cons]

theorem everyTruth_eq_all (holds : Criterion → Bool) (children : List Criterion) :
    everyTruth holds children = children.all (truth holds) := by
  induction children with
  | nil => rfl
  | cons child rest ih => rw [everyTruth, ih, List.all_cons]

theorem someTruth_eq_any (holds : Criterion → Bool) (children : List Criterion) :
    someTruth holds children = children.any (truth holds) := by
  induction children with
  | nil => rfl
  | cons child rest ih => rw [someTruth, ih, List.any_cons]

theorem leaves_of_isLeaf {leaf : Criterion} (isLeaf : leaf.isLeaf = true) :
    leaf.leaves = [leaf] := by
  cases leaf <;> first | rfl | cases isLeaf

theorem truth_of_isLeaf (holds : Criterion → Bool) {leaf : Criterion}
    (isLeaf : leaf.isLeaf = true) : leaf.truth holds = holds leaf := by
  cases leaf <;> first | rfl | cases isLeaf

/-- Induction over the tree that does not tell its leaves apart. -/
theorem treeInduction {motive : Criterion → Prop}
    (matchAll : motive .matchAll) (matchNone : motive .matchNone)
    (leaf : ∀ leaf, leaf.isLeaf = true → motive leaf)
    (allOf : ∀ children, (∀ child ∈ children, motive child) → motive (.allOf children))
    (anyOf : ∀ children, (∀ child ∈ children, motive child) → motive (.anyOf children))
    (notOf : ∀ child, motive child → motive (.notOf child)) (criterion : Criterion) :
    motive criterion := by
  refine @Criterion.rec motive (fun children => ∀ child ∈ children, motive child) matchAll
    matchNone (fun _ => leaf _ rfl) (fun _ => leaf _ rfl) (fun _ => leaf _ rfl)
    (fun _ => leaf _ rfl) (fun _ => leaf _ rfl) (fun _ => leaf _ rfl) (fun _ => leaf _ rfl)
    allOf anyOf notOf ?_ ?_ criterion
  · exact fun child member => nomatch member
  · exact fun first rest here later => List.forall_mem_cons.2 ⟨here, later⟩

variable (schema : Schema) (filter : LanguageFilter)

theorem lower_allOf (children : List Criterion) :
    lower schema filter (.allOf children) =
      children.mapM (lower schema filter) >>= fun queries => pure (.all queries) := by
  rw [lower, lowerList_eq_mapM]

theorem lower_anyOf (children : List Criterion) :
    lower schema filter (.anyOf children) =
      children.mapM (lower schema filter) >>= fun queries => pure (.any queries) := by
  rw [lower, lowerList_eq_mapM]

theorem lower_notOf (child : Criterion) :
    lower schema filter (.notOf child) =
      lower schema filter child >>= fun query => pure (.not query) := by
  rw [lower]

theorem verdict_lower (criterion : Criterion) :
    verdict (criterion.lower schema filter) =
      verdict (criterion.leaves.mapM (lower schema filter)) := by
  induction criterion using treeInduction with
  | matchAll => rfl
  | matchNone => rfl
  | leaf leaf isLeaf =>
    rw [leaves_of_isLeaf isLeaf, verdict_mapM_cons]
    cases leaf.lower schema filter <;> rfl
  | allOf children ih =>
    rw [lower_allOf, verdict_bind_pure, leaves, leavesOf_eq_flatMap]
    exact verdict_mapM_flatMap ih
  | anyOf children ih =>
    rw [lower_anyOf, verdict_bind_pure, leaves, leavesOf_eq_flatMap]
    exact verdict_mapM_flatMap ih
  | notOf child ih => rw [lower_notOf, verdict_bind_pure, leaves, ih]

def finds (doc : Document) (criterion : Criterion) : Bool :=
  match criterion.lower schema filter with
  | .ok query => query.isMatch doc
  | .error _ => false

variable {schema filter}

theorem isMatch_lower (doc : Document) {criterion : Criterion} {query : IndexQuery}
    (lowered : criterion.lower schema filter = .ok query) :
    query.isMatch doc = criterion.truth (finds schema filter doc) := by
  induction criterion using treeInduction generalizing query with
  | matchAll => cases lowered; rfl
  | matchNone => cases lowered; rfl
  | leaf leaf isLeaf => rw [truth_of_isLeaf _ isLeaf, finds, lowered]
  | allOf children ih =>
    rw [lower_allOf] at lowered
    obtain ⟨queries, done, same⟩ := bind_eq_ok.1 lowered
    rw [← Except.ok.inj same, IndexQuery.isMatch_all, truth, everyTruth_eq_all]
    exact all_mapM done fun child member query made => ih child member made
  | anyOf children ih =>
    rw [lower_anyOf] at lowered
    obtain ⟨queries, done, same⟩ := bind_eq_ok.1 lowered
    rw [← Except.ok.inj same, IndexQuery.isMatch_any, truth, someTruth_eq_any]
    exact any_mapM done fun child member query made => ih child member made
  | notOf child ih =>
    rw [lower_notOf] at lowered
    obtain ⟨inner, done, same⟩ := bind_eq_ok.1 lowered
    rw [← Except.ok.inj same, IndexQuery.isMatch_not, truth, ih done]

/-- The lowering of a tree is decided by that of its leaves: it succeeds when each leaf does, fails
as the first leaf that fails, and its query matches what the tree makes of its leaves. -/
theorem lower_by_leaves (schema : Schema) (filter : LanguageFilter) (criterion : Criterion) :
    ((∃ query, criterion.lower schema filter = .ok query) ↔
      ∀ leaf ∈ criterion.leaves, ∃ query, leaf.lower schema filter = .ok query) ∧
    (∀ failure, criterion.lower schema filter = .error failure ↔
      ∃ before leaf after, criterion.leaves = before ++ leaf :: after ∧
        (∀ earlier ∈ before, ∃ query, earlier.lower schema filter = .ok query) ∧
        leaf.lower schema filter = .error failure) ∧
    ∀ query, criterion.lower schema filter = .ok query →
      ∀ doc, query.isMatch doc = criterion.truth (finds schema filter doc) := by
  refine ⟨?_, fun failure => ?_, fun query lowered doc => isMatch_lower doc lowered⟩
  · rw [← verdict_eq_ok, verdict_lower, verdict_eq_ok, exists_mapM_eq_ok]
  · rw [← verdict_eq_error, verdict_lower, verdict_eq_error, mapM_eq_error]

end ContentFinder.Criterion
