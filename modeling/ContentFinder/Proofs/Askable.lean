import ContentFinder.Proofs.Composition
import ContentFinder.Proofs.LeafExpansion

/-! When queries can be built. A comparison of distances that can be made under one name can be made
under every other, and a query can be built for a reader when it can for each of their languages. -/

namespace ContentFinder

open Number Outcome

namespace IndexQuery

theorem kilometres_eq_ok {field : String} {value : Scalar} {number : Double} :
    kilometres field value = .ok number ↔ value.number? = some number := by
  unfold kilometres
  cases value.number? <;> simp

theorem one_kilometres_eq_ok {field : String} {operand : Operand} {number : Double} :
    (do kilometres field (← operand.one field)) = .ok number ↔
      ∃ scalar, operand = .single scalar ∧ scalar.number? = some number := by
  simp only [bind_eq_ok, Operand.one_eq_ok, kilometres_eq_ok]

/-- A comparison of distances asks for a radius that does not depend on the index field. -/
theorem exists_radius {field : String} {latitude longitude : Double} {operator : Operator}
    {operand : Operand} {query : IndexQuery}
    (compared : comparingDistance field latitude longitude operator operand = .ok query) :
    ∃ radius, ∀ other,
      comparingDistance other latitude longitude operator operand =
        .ok (.geoDistance other radius) := by
  cases operator with
  | gt | gte | lt | lte =>
    obtain ⟨number, given, -⟩ := bind_eq_ok.1 compared
    have read := one_kilometres_eq_ok.1 given
    exact ⟨_, fun other => bind_eq_ok.2 ⟨number, one_kilometres_eq_ok.2 read, rfl⟩⟩
  | between =>
    obtain ⟨ends, given, compared⟩ := bind_eq_ok.1 compared
    obtain ⟨low, readLow, compared⟩ := bind_eq_ok.1 compared
    obtain ⟨high, readHigh, -⟩ := bind_eq_ok.1 compared
    have pair := Operand.two_eq_ok.1 given
    rw [kilometres_eq_ok] at readLow readHigh
    exact ⟨_, fun other => bind_eq_ok.2 ⟨ends, Operand.two_eq_ok.2 pair, bind_eq_ok.2 ⟨low,
      kilometres_eq_ok.2 readLow, bind_eq_ok.2 ⟨high, kilometres_eq_ok.2 readHigh, rfl⟩⟩⟩⟩
  | eq | contains | isIn | like => cases compared

end IndexQuery

namespace LanguageFilter

variable {multilingual : Bool} {build : Projection → Except Failure IndexQuery}

/-- A query is built for the main language whenever the filter allows it, since only the document
can tell whether it is asked for. -/
theorem exists_expand {filter : LanguageFilter} :
    (∃ query, filter.expand multilingual build = .ok query) ↔
      ∀ projection ∈ filter.projections multilingual true,
        ∃ query, build projection = .ok query := by
  unfold expand projections
  cases multilingual with
  | false => simp
  | true =>
    by_cases unrestricted : filter.isUnrestricted = true
    · simp [unrestricted]
    · simp only [Bool.not_true, Bool.false_eq_true, if_false, unrestricted, Bool.and_true,
        List.forall_mem_append, List.forall_mem_map, bind_eq_ok]
      rw [← @exists_mapM_eq_ok _ _ _ (fun language => build (.code language))]
      cases filter.useAlwaysAvailable with
      | false => simp [pure, Except.pure]
      | true =>
        simp only [if_true, bind_eq_ok, pure, Except.pure, Except.ok.injEq,
          List.forall_mem_singleton]
        constructor
        · intro expanded
          obtain ⟨-, branches, built, fallback, main, -⟩ := expanded
          exact ⟨⟨branches, built⟩, fallback, main⟩
        · intro parts
          obtain ⟨⟨branches, built⟩, fallback, main⟩ := parts
          exact ⟨_, branches, built, fallback, main, rfl⟩

theorem projections_ne_nil (filter : LanguageFilter) :
    filter.projections multilingual true ≠ [] := by
  unfold projections
  split
  · exact List.cons_ne_nil _ _
  · split
    · exact List.cons_ne_nil _ _
    · rename_i restricted
      intro none
      rw [List.append_eq_nil_iff, List.map_eq_nil_iff] at none
      exact restricted (isUnrestricted_eq_true none.1)

end LanguageFilter

theorem FullTextLeaf.exists_lower (leaf : FullTextLeaf) (wide : LanguageFilter) :
    ∃ query, leaf.lower wide = .ok query :=
  LanguageFilter.exists_expand.2 fun _ _ => ⟨_, rfl⟩

end ContentFinder
