import ContentFinder.Proofs.PropertyCriteria

/-! Criteria on subtrees. Their patterns are made from paths that may hold any character, and they
ask for one thing only: a path of the document begins with one of the paths given. -/

namespace ContentFinder

open Outcome

theorem Comparison.of_make {table : SpecificationTable} {target : String} {operator : Operator}
    {operand : Operand} {comparison : Comparison table target}
    (made : Comparison.make table target operator operand = .ok comparison) :
    ∃ accepted, comparison = ⟨operator, operand, accepted⟩ := by
  unfold make at made
  split at made
  · rename_i accepted
    exact ⟨accepted, (Except.ok.inj made).symm⟩
  · cases made

theorem PropertyLeaf.of_make {property : Property} {operator : Operator} {operand : Operand}
    {leaf : PropertyLeaf} (made : make property operator operand = .ok leaf) :
    ∃ accepted pathsFormed, leaf = ⟨property, ⟨operator, operand, accepted⟩, pathsFormed⟩ := by
  obtain ⟨comparison, compared, formed⟩ := bind_eq_ok.1 made
  obtain ⟨accepted, rfl⟩ := Comparison.of_make compared
  split at formed
  · rename_i pathsFormed
    exact ⟨accepted, pathsFormed, (Except.ok.inj formed).symm⟩
  · cases formed

theorem exists_paths {operator : Operator} {operand : Operand} {target : String}
    (accepted : Property.subtree.table.validate target operator operand = .ok ()) :
    ∃ paths : List String, operand.scalars = paths.map .string := by
  have texts : operand.scalars ∈ Set.range (List.map Scalar.string) := by
    rw [Set.range_list_map]
    intro scalar member
    have typed := type_mem_of_selecting accepted member
    cases scalar with
    | string path => exact ⟨path, rfl⟩
    | _ => simp [Scalar.type] at typed
  obtain ⟨paths, same⟩ := texts
  exact ⟨paths, same.symm⟩

/-- A criterion on subtrees always has a query, and the query finds the documents of which some path
begins, character for character, with one of the paths given. -/
theorem Criterion.isMatch_subtree_iff {operator : Operator} {operand : Operand}
    {leaf : PropertyLeaf} (made : PropertyLeaf.make .subtree operator operand = .ok leaf)
    (schema : Schema) (filter : LanguageFilter) :
    ∃ paths : List String, operand.scalars = paths.map .string ∧
      ∃ query, (Criterion.property leaf).lower schema filter = .ok query ∧
        ∀ doc, query.isMatch doc = true ↔ ∃ start ∈ paths, ∃ path,
          .string path ∈ doc.get IndexName.path ∧ start.toList <+: path.toList := by
  obtain ⟨accepted, pathsFormed, rfl⟩ := PropertyLeaf.of_make made
  obtain ⟨paths, given⟩ := exists_paths accepted
  refine ⟨paths, given, _, rfl, fun doc => ?_⟩
  rw [IndexQuery.isMatch_any, given, List.any_map, List.any_map, List.any_eq_true]
  apply exists_congr
  intro start
  apply and_congr_right
  intro _
  show (IndexQuery.pathUnder start).isMatch doc = true ↔ _
  simp only [isMatch_pathUnder_iff, Document.mem_strings]

/-! Two paths with characters that a pattern would take for its own. -/

namespace Sample

def starredPaths : Operand := .list [.string "/1/*/", .string "/2\\?/"]

def underStarredPaths : PropertyLeaf := ⟨.subtree, ⟨.isIn, starredPaths, rfl⟩, fun _ => rfl⟩

def located (path : String) : Document :=
  (Document.new "7").add IndexName.path (.string path)

end Sample

open Sample in
theorem Criterion.isMatch_starredPaths :
    PropertyLeaf.make .subtree .isIn starredPaths = .ok underStarredPaths ∧
      ∃ query, (Criterion.property underStarredPaths).lower .empty .unrestricted = .ok query ∧
        query.isMatch (located "/2\\?/5/") = true ∧ query.isMatch (located "/1/2/5/") = false := by
  have made : PropertyLeaf.make .subtree .isIn starredPaths = .ok underStarredPaths := rfl
  obtain ⟨paths, given, query, lowered, finds⟩ :=
    Criterion.isMatch_subtree_iff made .empty .unrestricted
  have listed : ["/1/*/", "/2\\?/"] = paths := by
    have apart : ∀ x y, Scalar.string x = .string y → x = y := fun _ _ => Scalar.string.inj
    exact (List.map_inj_right apart).1 given
  refine ⟨made, query, lowered, ?_, ?_⟩
  · apply (finds _).2
    refine ⟨"/2\\?/", by simp [← listed], "/2\\?/5/", ?_, by decide⟩
    simp [located, Document.get_add_new]
  · apply Bool.eq_false_iff.2
    intro found
    obtain ⟨start, member, path, inside, begins⟩ := (finds _).1 found
    obtain rfl : path = "/1/2/5/" := by simpa [located, Document.get_add_new] using inside
    rw [← listed] at member
    have apart : ∀ start ∈ ["/1/*/", "/2\\?/"], ¬start.toList <+: "/1/2/5/".toList := by decide
    exact apart start member begins

end ContentFinder
