import ContentFinder.Proofs.AlikeFailures
import ContentFinder.Proofs.Askable
import ContentFinder.Proofs.FieldShape

/-! A reader of more languages finds no less. A leaf that is met under the name of one language is
met under the name for all languages too, since a document holds each value there as well. From its
leaves this carries over to a tree in which nothing is negated. -/

namespace ContentFinder

open Number Outcome

theorem append_subset_append {α : Type} {first second more others : List α} (left : first ⊆ more)
    (right : second ⊆ others) : first ++ second ⊆ more ++ others :=
  List.append_subset.2 ⟨List.subset_append_of_subset_left _ left,
    List.subset_append_of_subset_right _ right⟩

/-! The names for all languages. -/

inductive IndexName.IsBase : String → Prop where
  | text : IsBase IndexName.text
  | value (definition : FieldDefinition) : IsBase definition.baseName

namespace IndexName.IsBase

variable {base : String} {projection : Projection}

theorem not_system (isBase : IsBase base) (projection : Projection) :
    projection.apply base ∉ IndexName.system := by
  cases isBase with
  | text => exact apply_text_not_system projection
  | value definition => exact apply_baseName_not_system projection definition

theorem baseName_ne (isBase : IsBase base) (definition : FieldDefinition)
    (free : '_' ∉ projection.label.toList) : definition.baseName ≠ projection.apply base := by
  cases isBase with
  | text => exact definition.baseName_ne_apply_text free
  | value other => exact definition.baseName_ne_apply other free

end IndexName.IsBase

namespace Content

variable {schema : Schema} {content : Content} {field : Field} {base : String}
  {projection : Projection}

theorem written_projected_subset (plain : '_' ∉ field.language.toList)
    (free : '_' ∉ projection.label.toList) (other : String) (values : List IndexValue) :
    Document.written (projection.apply base) (content.projected other field values) ⊆
      Document.written (Projection.any.apply base) (content.projected other field values) := by
  intro value member
  obtain ⟨entry, inside, name, held⟩ := Document.exists_of_mem_written member
  obtain ⟨second, listed, rfl⟩ := exists_of_mem_projected inside
  obtain rfl := Projection.base_of_apply (label_free_of_mem plain listed) free name
  have all : (Projection.any.apply other, values) ∈ content.projected other field values := by
    simp [projected]
  exact List.mem_flatMap.2 ⟨_, all, by rwa [if_pos rfl]⟩

theorem written_valueEntries_subset (isBase : IndexName.IsBase base)
    (plain : '_' ∉ field.language.toList) (free : '_' ∉ projection.label.toList)
    (definition : FieldDefinition) (isFirst : Bool) (values : List IndexValue) :
    Document.written (projection.apply base) (content.valueEntries definition isFirst field values) ⊆
      Document.written (Projection.any.apply base)
        (content.valueEntries definition isFirst field values) := by
  unfold valueEntries
  split
  · exact written_projected_subset plain free _ values
  · split
    · rw [Document.written_eq_nil]
      · exact List.nil_subset _
      · exact List.forall_mem_singleton.2 (isBase.baseName_ne definition free)
    · exact List.nil_subset _

theorem written_entriesOf_subset (isBase : IndexName.IsBase base)
    (plain : '_' ∉ field.language.toList) (free : '_' ∉ projection.label.toList)
    (isFirst : Bool) :
    Document.written (projection.apply base) (content.entriesOf schema isFirst field) ⊆
      Document.written (Projection.any.apply base) (content.entriesOf schema isFirst field) := by
  unfold entriesOf
  split
  · exact List.nil_subset _
  · rename_i definition _
    rw [Document.written_append, Document.written_append]
    apply append_subset_append
    · exact written_valueEntries_subset isBase plain free definition isFirst _
    · unfold textEntries
      split
      · exact List.nil_subset _
      · exact written_projected_subset plain free _ _

end Content

/-- Whatever a document holds in some language it holds for all languages too. -/
def Document.Gathers (doc : Document) : Prop :=
  ∀ base, IndexName.IsBase base → ∀ projection : Projection, '_' ∉ projection.label.toList →
    doc.get (projection.apply base) ⊆ doc.get (Projection.any.apply base)

theorem Content.gathers_header (content : Content) : content.header.Gathers := by
  intro base isBase projection _
  rw [get_header_other (isBase.not_system projection)]
  exact List.nil_subset _

theorem Content.gathers_toDocument {schema : Schema} {content : Content} {doc : Document}
    (mapped : content.toDocument schema = .ok doc)
    (plain : ∀ field ∈ content.fields, '_' ∉ field.language.toList) : doc.Gathers := by
  refine toDocument_induction mapped content.gathers_header ?_
  intro field member isFirst before after gained gathers base isBase projection free
  rw [gained, gained]
  apply append_subset_append
  · exact gathers base isBase projection free
  · exact written_entriesOf_subset isBase (plain field member) free isFirst

/-! Readers. -/

namespace LanguageFilter

/-- The second reader asks for all languages, or for those of the first one and more. If the main
language may stand in for the first reader, so it may for the second. -/
def Widens (narrow wide : LanguageFilter) : Prop :=
  wide.languages = [] ∨ narrow.languages ≠ [] ∧ narrow.languages ⊆ wide.languages ∧
    (narrow.useAlwaysAvailable = true → wide.useAlwaysAvailable = true)

variable {narrow wide : LanguageFilter} {doc : Document} {multilingual : Bool}
  {base name : String}

theorem looksUp_unrestricted (unrestricted : narrow.languages = []) :
    narrow.LooksUp doc true base name ↔ name = Projection.any.apply base := by
  simp [LooksUp, unrestricted]

theorem looksUp_restricted (restricted : narrow.languages ≠ []) :
    narrow.LooksUp doc true base name ↔
      (∃ language ∈ narrow.languages, name = (Projection.code language).apply base) ∨
        narrow.useAlwaysAvailable = true ∧
          IndexValue.boolean true ∈ doc.get IndexName.alwaysAvailable ∧
            name = Projection.main.apply base := by
  simp [LooksUp, restricted]

theorem LooksUp.gathered (free : ∀ language ∈ narrow.languages, '_' ∉ language.toList)
    (gathers : doc.Gathers) (isBase : IndexName.IsBase base)
    (looks : narrow.LooksUp doc true base name) :
    doc.get name ⊆ doc.get (Projection.any.apply base) := by
  by_cases unrestricted : narrow.languages = []
  · rw [(looksUp_unrestricted unrestricted).1 looks]
    exact List.Subset.refl _
  · obtain ⟨language, asked, rfl⟩ | ⟨-, -, rfl⟩ := (looksUp_restricted unrestricted).1 looks
    · exact gathers base isBase (.code language) (free language asked)
    · exact gathers base isBase .main (by decide)

theorem LooksUp.widened (widens : narrow.Widens wide)
    (free : ∀ language ∈ narrow.languages, '_' ∉ language.toList) (gathers : doc.Gathers)
    (isBase : IndexName.IsBase base) (looks : narrow.LooksUp doc multilingual base name) :
    ∃ wider, wide.LooksUp doc multilingual base wider ∧ doc.get name ⊆ doc.get wider := by
  cases multilingual with
  | false => exact ⟨name, looks, List.Subset.refl _⟩
  | true =>
    obtain unrestricted | ⟨restricted, more, fallback⟩ := widens
    · exact ⟨_, (looksUp_unrestricted unrestricted).2 rfl, looks.gathered free gathers isBase⟩
    · refine ⟨name, ?_, List.Subset.refl _⟩
      have some : wide.languages ≠ [] := by
        intro none
        rw [none] at more
        exact restricted (List.subset_nil.1 more)
      obtain ⟨language, asked, same⟩ | ⟨allowed, available, same⟩ :=
        (looksUp_restricted restricted).1 looks
      · exact (looksUp_restricted some).2 (.inl ⟨language, more asked, same⟩)
      · exact (looksUp_restricted some).2 (.inr ⟨fallback allowed, available, same⟩)

end LanguageFilter

/-! Queries that are met under a name with more values. -/

namespace IndexQuery

variable {doc : Document} {name other : String} (more : doc.get name ⊆ doc.get other)

include more

theorem comparing_widened {kind : Option FieldKind} {operator : Operator} {operand : Operand}
    (met : ∃ part, comparing name kind operator operand = .ok part ∧ part.isMatch doc = true) :
    ∃ part, comparing other kind operator operand = .ok part ∧ part.isMatch doc = true := by
  obtain ⟨part, compared, matched⟩ := met
  obtain ⟨second, again⟩ := exists_comparing compared other
  rw [isMatch_comparing compared, List.any_eq_true] at matched
  obtain ⟨value, held, accepted⟩ := matched
  refine ⟨second, again, ?_⟩
  rw [isMatch_comparing again]
  exact List.any_eq_true.2 ⟨value, more held, accepted⟩

theorem comparingDistance_widened {latitude longitude : Double} {operator : Operator}
    {operand : Operand}
    (met : ∃ part, comparingDistance name latitude longitude operator operand = .ok part ∧
      part.isMatch doc = true) :
    ∃ part, comparingDistance other latitude longitude operator operand = .ok part ∧
      part.isMatch doc = true := by
  obtain ⟨part, compared, matched⟩ := met
  obtain ⟨radius, each⟩ := exists_radius compared
  rw [each name] at compared
  cases compared
  rw [isMatch_geoDistance, List.any_eq_true] at matched
  obtain ⟨point, held, inside⟩ := matched
  obtain ⟨value, stored, read⟩ := List.mem_filterMap.1 held
  refine ⟨.geoDistance other radius, each other, ?_⟩
  rw [isMatch_geoDistance]
  exact List.any_eq_true.2 ⟨point, List.mem_filterMap.2 ⟨value, more stored, read⟩, inside⟩

theorem fullText_widened {text : String} (matched : isMatch (.fullText [name] text) doc = true) :
    isMatch (.fullText [other] text) doc = true := by
  rw [isMatch_fullText_iff] at matched ⊢
  refine ⟨matched.1, fun term member => ?_⟩
  obtain ⟨field, listed, string, held, accepted⟩ := matched.2 term member
  obtain rfl := List.mem_singleton.1 listed
  obtain ⟨value, stored, read⟩ := List.mem_filterMap.1 held
  exact ⟨other, List.mem_singleton_self other, string,
    List.mem_filterMap.2 ⟨value, more stored, read⟩, accepted⟩

end IndexQuery

/-! Leaves. -/

theorem Schema.HasBase.isBase {schema : Schema} {overrides : Overrides}
    {contentType identifier base : String}
    (own : ∀ contentType, overrides.get? contentType identifier = none)
    (hasBase : schema.HasBase overrides contentType identifier base) : IndexName.IsBase base := by
  cases hasBase with
  | given _ named =>
    rw [own] at named
    cases named
  | defined definition => exact .value definition

namespace Criterion

def IsOwn : Criterion → Prop
  | .field leaf => ∀ contentType, leaf.overrides.get? contentType leaf.identifier = none
  | .distance leaf => ∀ contentType, leaf.overrides.get? contentType leaf.identifier = none
  | _ => True

/-- Trees without "not", and without index names from the caller. -/
inductive Affirmative : Criterion → Prop where
  | matchAll : Affirmative .matchAll
  | matchNone : Affirmative .matchNone
  | leaf {leaf : Criterion} (isLeaf : leaf.isLeaf = true) (own : leaf.IsOwn) : Affirmative leaf
  | allOf {children : List Criterion} (each : ∀ child ∈ children, Affirmative child) :
      Affirmative (.allOf children)
  | anyOf {children : List Criterion} (each : ∀ child ∈ children, Affirmative child) :
      Affirmative (.anyOf children)

theorem finds_iff {schema : Schema} {filter : LanguageFilter} {doc : Document}
    {criterion : Criterion} :
    criterion.finds schema filter doc = true ↔
      ∃ query, criterion.lower schema filter = .ok query ∧ query.isMatch doc = true :=
  IndexQuery.isMet_iff

theorem Affirmative.truth_mono {holds others : Criterion → Bool} {criterion : Criterion}
    (affirmative : criterion.Affirmative)
    (each : ∀ leaf : Criterion, leaf.isLeaf = true → leaf.IsOwn → holds leaf = true →
      others leaf = true)
    (held : criterion.truth holds = true) : criterion.truth others = true := by
  induction affirmative with
  | matchAll => rfl
  | matchNone => cases held
  | leaf isLeaf own =>
    rw [truth_of_isLeaf _ isLeaf] at held ⊢
    exact each _ isLeaf own held
  | allOf _ ih =>
    rw [truth, everyTruth_eq_all, List.all_eq_true] at held ⊢
    exact fun child member => ih child member (held child member)
  | anyOf _ ih =>
    rw [truth, someTruth_eq_any, List.any_eq_true] at held ⊢
    obtain ⟨child, member, true⟩ := held
    exact ⟨child, member, ih child member true⟩

section Widened

variable {schema : Schema} {doc : Document} {narrow wide : LanguageFilter}
  (gathers : doc.Gathers) (widens : narrow.Widens wide)
  (free : ∀ language ∈ narrow.languages, '_' ∉ language.toList)

include gathers widens free

/-- What holds of a name, and so of every name with more values, holds of a name that the second
reader looks up. -/
theorem someName_widened {overrides : Overrides} {identifier : String}
    {holds : String → String → Prop}
    (own : ∀ contentType, overrides.get? contentType identifier = none)
    (grows : ∀ contentType name other, doc.get name ⊆ doc.get other → holds contentType name →
      holds contentType other)
    (found : schema.SomeName overrides narrow doc identifier holds) :
    schema.SomeName overrides wide doc identifier holds := by
  obtain ⟨contentType, base, name, hasBase, looks, held⟩ := found
  obtain ⟨wider, looksWider, more⟩ := looks.widened widens free gathers (hasBase.isBase own)
  exact ⟨contentType, base, wider, hasBase, looksWider, grows contentType name wider more held⟩

theorem finds_widened (leaf : Criterion) (isLeaf : leaf.isLeaf = true) (own : leaf.IsOwn)
    (found : leaf.finds schema narrow doc = true) : leaf.finds schema wide doc = true := by
  rw [finds_iff] at found ⊢
  obtain ⟨query, lowered, matched⟩ := found
  obtain ⟨wider, again⟩ := exists_lower lowered wide
  refine ⟨wider, again, ?_⟩
  cases leaf with
  | field leaf =>
    rw [FieldLeaf.isMatch_lower_iff lowered] at matched
    rw [FieldLeaf.isMatch_lower_iff again]
    exact someName_widened gathers widens free own
      (fun _ _ _ more => IndexQuery.comparing_widened more) matched
  | distance leaf =>
    rw [DistanceLeaf.isMatch_lower_iff lowered] at matched
    rw [DistanceLeaf.isMatch_lower_iff again]
    exact someName_widened gathers widens free own
      (fun _ _ _ more => IndexQuery.comparingDistance_widened more) matched
  | fullText leaf =>
    rw [FullTextLeaf.isMatch_lower_iff lowered] at matched
    rw [FullTextLeaf.isMatch_lower_iff again]
    obtain ⟨name, looks, held⟩ := matched
    obtain ⟨other, looksWider, more⟩ := looks.widened widens free gathers .text
    exact ⟨other, looksWider, IndexQuery.fullText_widened more held⟩
  | contentId leaf | property leaf | language leaf | indexField leaf =>
    -- Such a leaf has one query for all readers.
    cases lowered.symm.trans again
    exact matched
  | matchAll | matchNone | allOf | anyOf | notOf => cases isLeaf

end Widened

/-- A criterion in which nothing is negated, and no index name is the caller's, finds for a reader
of more languages what it finds for a reader of fewer. -/
theorem isMatch_widened {schema : Schema} {content : Content} {doc : Document}
    {criterion : Criterion} {narrow wide : LanguageFilter} {query : IndexQuery}
    (mapped : content.toDocument schema = .ok doc)
    (plain : ∀ field ∈ content.fields, '_' ∉ field.language.toList)
    (affirmative : criterion.Affirmative) (widens : narrow.Widens wide)
    (free : ∀ language ∈ narrow.languages, '_' ∉ language.toList)
    (lowered : criterion.lower schema narrow = .ok query) (matched : query.isMatch doc = true) :
    ∃ wider, criterion.lower schema wide = .ok wider ∧ wider.isMatch doc = true := by
  obtain ⟨wider, again⟩ := exists_lower lowered wide
  refine ⟨wider, again, ?_⟩
  have gathers : doc.Gathers := Content.gathers_toDocument mapped plain
  rw [isMatch_lower doc lowered] at matched
  rw [isMatch_lower doc again]
  exact affirmative.truth_mono (finds_widened gathers widens free) matched

end Criterion

def Sample.teaCriterion : Criterion :=
  .allOf [.field titleLeaf, .fullText teaLeaf]

theorem Sample.affirmative_teaCriterion : teaCriterion.Affirmative := by
  apply Criterion.Affirmative.allOf
  intro child member
  obtain rfl | later := List.mem_cons.1 member
  · exact .leaf rfl fun _ => rfl
  · rw [List.mem_singleton.1 later]
    exact .leaf rfl trivial

theorem Criterion.isMatch_widened_tea :
    ∃ query wider, Sample.teaCriterion.lower Sample.schema Sample.germanOrMain = .ok query ∧
      query.isMatch Sample.document = true ∧
      Sample.teaCriterion.lower Sample.schema .unrestricted = .ok wider ∧
      wider.isMatch Sample.document = true := by
  have lowered : Sample.teaCriterion.lower Sample.schema Sample.germanOrMain = .ok _ := rfl
  have widens : Sample.germanOrMain.Widens .unrestricted := .inl rfl
  have plain : ∀ field ∈ Sample.content.fields, '_' ∉ field.language.toList := by decide
  obtain ⟨wider, again, found⟩ := isMatch_widened Sample.mapped plain
    Sample.affirmative_teaCriterion widens (by decide) lowered (by decide)
  exact ⟨_, wider, lowered, by decide, again, found⟩

end ContentFinder
