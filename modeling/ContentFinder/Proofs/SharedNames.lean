import Mathlib.Data.List.Basic
import ContentFinder.Proofs.Expansion

/-! Which fields share an index name. A resolved name is a base name with at most one label behind
it. Two base names may be spelled alike, and a label may hold what looks like the end of a base
name; apart from that, different fields have different names. -/

namespace ContentFinder

namespace Projection

/-- Between underscores the label holds the word "value" and a kind, as a base name does at its
end. -/
def NamesKind (projection : Projection) : Prop :=
  ∃ kind : FieldKind,
    ("_value_" ++ kind.suffix ++ "_").toList <:+: ("_" ++ projection.label ++ "_").toList

theorem not_namesKind {projection : Projection} (absent : 'v' ∉ projection.label.toList) :
    ¬projection.NamesKind := by
  rintro ⟨kind, inside⟩
  have inWord : 'v' ∈ ("_value_" ++ kind.suffix ++ "_").toList := by simp
  have inLabel := inside.subset inWord
  simp only [String.toList_append, List.mem_append] at inLabel
  rcases inLabel with (first | label) | last
  · exact absurd first (by decide)
  · exact absent label
  · exact absurd last (by decide)

theorem apply_eq_apply_iff {projection other : Projection} {base : String} :
    projection.apply base = other.apply base ↔ projection.label = other.label := by
  rw [apply_eq, apply_eq, ← String.toList_inj, ← String.toList_inj]
  simp

def ending (projection : Projection) (multilingual : Bool) : List Char :=
  if multilingual then '_' :: projection.label.toList else []

theorem exists_ending_append (projection : Projection) (multilingual : Bool) :
    ∃ back, projection.ending multilingual ++ ['_'] = '_' :: back := by
  cases multilingual with
  | false => exact ⟨[], rfl⟩
  | true => exact ⟨projection.label.toList ++ ['_'], rfl⟩

end Projection

namespace FieldDefinition

theorem toList_indexName (definition : FieldDefinition) (projection : Projection) :
    (definition.indexName projection).toList =
      definition.baseName.toList ++ projection.ending definition.traits.multilingual := by
  unfold indexName Projection.ending
  split <;> simp [Projection.apply_eq]

/-- Two base names are alike when their names, joined by the underscore, and their kinds are. -/
theorem baseName_eq_baseName_iff (definition other : FieldDefinition) :
    definition.baseName = other.baseName ↔
      definition.contentType ++ "_" ++ definition.identifier =
          other.contentType ++ "_" ++ other.identifier ∧
        definition.traits.kind = other.traits.kind := by
  rw [baseName_eq, baseName_eq, append_underscore_inj (FieldKind.suffix_free _)
    (FieldKind.suffix_free _), stem, stem]
  constructor
  · intro same
    exact ⟨by simpa using same.1, FieldKind.suffix_injective same.2⟩
  · intro same
    exact ⟨by rw [same.1], by rw [same.2]⟩

theorem toList_baseName (definition : FieldDefinition) :
    definition.baseName.toList = (definition.contentType ++ "_" ++ definition.identifier).toList ++
      '_' :: ("value".toList ++ '_' :: definition.traits.kind.suffix.toList) := by
  have split : "_value_".toList = '_' :: "value".toList ++ ['_'] := by decide
  simp only [baseName, String.toList_append, split]
  simp

/-- The word in front of the kind is not itself a kind. -/
theorem toList_baseName_ne_value (definition : FieldDefinition) (front : List Char) :
    definition.baseName.toList ≠ front ++ '_' :: "value".toList := by
  intro same
  have ends : definition.baseName = String.ofList front ++ "_" ++ "value" := by
    apply String.toList_inj.1
    simpa using same
  rw [baseName_eq, append_underscore_inj (FieldKind.suffix_free _) (by decide)] at ends
  have different : ∀ kind : FieldKind, kind.suffix ≠ "value" := by
    intro kind
    cases kind <;> decide
  exact different _ ends.2

/-- A base name that begins with another one and an underscore has its whole end behind that
underscore. -/
theorem end_suffix_of_extends {definition other : FieldDefinition} {rest : List Char}
    (same : other.baseName.toList = definition.baseName.toList ++ '_' :: rest) :
    '_' :: ("value".toList ++ '_' :: other.traits.kind.suffix.toList) <:+ '_' :: rest := by
  rw [toList_baseName other] at same
  rcases List.append_eq_append_iff.1 same with ⟨middle, start, back⟩ | ⟨middle, -, back⟩
  · cases middle with
    | nil =>
      rw [back]
      exact List.suffix_refl _
    | cons c middle =>
      -- Then the shorter base name would end in the word "value".
      obtain ⟨bar, back⟩ := List.cons.inj back
      have free : '_' ∉ "value".toList := by decide
      obtain ⟨here, -⟩ := (List.append_cons_inj_of_notMem free (FieldKind.suffix_free _)).1 back
      rw [← bar, ← here] at start
      exact absurd start (definition.toList_baseName_ne_value _)
  · exact ⟨middle, back.symm⟩

/-- A name that continues another base name with a label that names no kind has that very base
name. -/
theorem baseName_eq_of_longer {definition other : FieldDefinition} {projection second : Projection}
    (noKind : ¬projection.NamesKind) {multilingual otherMultilingual : Bool} {middle : List Char}
    (longer : other.baseName.toList = definition.baseName.toList ++ middle)
    (begins : projection.ending multilingual = middle ++ second.ending otherMultilingual) :
    definition.baseName = other.baseName := by
  cases middle with
  | nil => exact String.toList_inj.1 (by simpa using longer.symm)
  | cons c middle =>
    rw [Projection.ending] at begins
    split at begins
    · obtain ⟨rfl, label⟩ := List.cons.inj begins
      obtain ⟨front, ends⟩ := end_suffix_of_extends longer
      obtain ⟨back, behind⟩ := second.exists_ending_append otherMultilingual
      refine absurd ⟨other.traits.kind, front, back, ?_⟩ noKind
      have whole : ("_" ++ projection.label ++ "_").toList = ('_' :: middle) ++ '_' :: back := by
        rw [← behind, ← List.append_assoc]
        simp [label]
      rw [whole, ← ends]
      simp
    · cases begins

section Shared

variable {projection second : Projection} (noKind : ¬projection.NamesKind)
  (secondNoKind : ¬second.NamesKind)

include noKind secondNoKind

theorem baseName_eq_of_indexName_eq {definition other : FieldDefinition}
    (same : definition.indexName projection = other.indexName second) :
    definition.baseName = other.baseName := by
  have chars := congrArg String.toList same
  rw [toList_indexName, toList_indexName] at chars
  rcases List.append_eq_append_iff.1 chars with ⟨middle, longer, begins⟩ | ⟨middle, longer, begins⟩
  · exact baseName_eq_of_longer noKind longer begins
  · exact (baseName_eq_of_longer secondNoKind longer begins).symm

theorem indexName_eq_iff {definition other : FieldDefinition}
    (searchable : definition.traits.searchable = other.traits.searchable) :
    definition.indexName projection = other.indexName second ↔
      definition.contentType ++ "_" ++ definition.identifier =
          other.contentType ++ "_" ++ other.identifier ∧
        definition.traits = other.traits ∧
          (definition.traits.multilingual = true → projection.label = second.label) := by
  constructor
  · intro same
    have base := baseName_eq_of_indexName_eq noKind secondNoKind same
    obtain ⟨names, kind⟩ := (baseName_eq_baseName_iff definition other).1 base
    have chars := congrArg String.toList same
    rw [toList_indexName, toList_indexName, base] at chars
    have endings := List.append_cancel_left chars
    have multilingual : definition.traits.multilingual = other.traits.multilingual := by
      unfold Projection.ending at endings
      split_ifs at endings <;> simp_all
    refine ⟨names, ?_, fun here => ?_⟩
    · cases ownTraits : definition.traits
      cases otherTraits : other.traits
      simp_all
    · rw [Projection.ending, Projection.ending, ← multilingual, here] at endings
      exact String.toList_inj.1 (List.cons.inj endings).2
  · rintro ⟨names, traits, labels⟩
    have base := (baseName_eq_baseName_iff definition other).2 ⟨names, by rw [traits]⟩
    rw [indexName, indexName, ← traits, ← base]
    split
    · rename_i multilingual
      rw [Projection.apply_eq, Projection.apply_eq, labels multilingual]
    · rfl

end Shared

/-- Under a code that names a kind a field does share its index name with one of another base
name. -/
theorem exists_shared_of_namesKind {language : String}
    (named : (Projection.code language).NamesKind) :
    ∃ (definition other : FieldDefinition) (second : Projection),
      definition.baseName ≠ other.baseName ∧
      definition.indexName (.code language) = other.indexName second := by
  obtain ⟨kind, front, back, whole⟩ := named
  let title : FieldDefinition := ⟨"note", "title", .string, true, true⟩
  let other (multilingual : Bool) : FieldDefinition :=
    ⟨"note", String.ofList ("title_value_s".toList ++ front), kind, multilingual, true⟩
  let ending := '_' :: ("value".toList ++ '_' :: kind.suffix.toList)
  have base : ∀ multilingual,
      (other multilingual).baseName.toList = title.baseName.toList ++ (front ++ ending) := by
    intro multilingual
    rw [toList_baseName]
    simp [other, ending, title, baseName, FieldKind.suffix]
  have apart : ∀ multilingual, title.baseName ≠ (other multilingual).baseName := by
    intro multilingual same
    have lengths := congrArg List.length (base multilingual)
    rw [← same] at lengths
    simp [ending] at lengths
  have label : front ++ ending ++ '_' :: back = '_' :: (language.toList ++ ['_']) := by
    simpa [ending, Projection.label] using whole
  have shared : ∀ multilingual second, '_' :: language.toList =
      front ++ ending ++ second.ending multilingual →
      title.indexName (.code language) = (other multilingual).indexName second := by
    intro multilingual second same
    have own : (Projection.code language).ending title.traits.multilingual =
        front ++ ending ++ second.ending multilingual := same
    rw [← String.toList_inj, toList_indexName, toList_indexName, base, own]
    simp [other]
  -- Behind the kind the label is at its end, or it goes on as another code.
  rcases List.eq_nil_or_concat back with rfl | ⟨rest, last, rfl⟩
  · have whole : '_' :: language.toList = front ++ ending :=
      List.append_cancel_right (label.symm.trans (by simp))
    exact ⟨title, other false, .main, apart false,
      shared false .main (by simpa [Projection.ending] using whole)⟩
  · have split : ('_' :: language.toList) ++ ['_'] =
        (front ++ ending ++ '_' :: rest) ++ [last] := by
      simpa using label.symm
    have whole : '_' :: language.toList = front ++ ending ++ '_' :: rest :=
      (List.append_inj' split rfl).1
    exact ⟨title, other true, .code (String.ofList rest), apart true,
      shared true _ (by simpa [Projection.ending, Projection.label] using whole)⟩

end FieldDefinition

namespace Schema

variable {definitions : List FieldDefinition} {schema : Schema}

theorem resolve_of_mem (built : ofDefinitions definitions = .ok schema)
    {definition : FieldDefinition} (member : definition ∈ definitions)
    (searchable : definition.traits.searchable = true) (projection : Projection) :
    schema.resolve .empty definition.contentType definition.identifier projection =
      .ok (definition.indexName projection) := by
  have known := (definition?_ofDefinitions built).2 ⟨member, rfl, rfl⟩
  exact resolve_own (fun _ => rfl) known searchable projection

/-- Fields of different names resolve to different index names, unless their names are spelled alike
when the underscore joins them and they are indexed alike. The names of one field for its main
language, for all languages and for a single language differ, unless the language is called as one
of the former. -/
theorem resolved_names_apart (built : ofDefinitions definitions = .ok schema) :
    (∀ definition ∈ definitions, ∀ other ∈ definitions,
      definition.traits.searchable = true → other.traits.searchable = true →
      ∀ projection second : Projection, ¬projection.NamesKind → ¬second.NamesKind →
      ∃ name otherName,
        schema.resolve .empty definition.contentType definition.identifier projection = .ok name ∧
        schema.resolve .empty other.contentType other.identifier second = .ok otherName ∧
        (name = otherName ↔
          definition.contentType ++ "_" ++ definition.identifier =
              other.contentType ++ "_" ++ other.identifier ∧
            definition.traits = other.traits ∧
              (definition.traits.multilingual = true → projection.label = second.label))) ∧
    ∀ definition ∈ definitions, definition.traits.multilingual = true →
      (definition.traits.searchable = true → ∀ projection : Projection,
        schema.resolve .empty definition.contentType definition.identifier projection =
          .ok (projection.apply definition.baseName)) ∧
      Projection.main.apply definition.baseName ≠ Projection.any.apply definition.baseName ∧
      ∀ language,
        ((Projection.code language).apply definition.baseName =
          Projection.main.apply definition.baseName ↔ language = "main") ∧
        ((Projection.code language).apply definition.baseName =
          Projection.any.apply definition.baseName ↔ language = "all") := by
  constructor
  · intro definition member other otherMember searchable otherSearchable projection second noKind
      secondNoKind
    refine ⟨_, _, resolve_of_mem built member searchable projection,
      resolve_of_mem built otherMember otherSearchable second, ?_⟩
    exact FieldDefinition.indexName_eq_iff noKind secondNoKind
      (searchable.trans otherSearchable.symm)
  · intro definition member multilingual
    refine ⟨fun searchable projection => ?_, ?_, fun language => ⟨?_, ?_⟩⟩
    · rw [resolve_of_mem built member searchable, FieldDefinition.indexName, if_pos multilingual]
    · rw [ne_eq, Projection.apply_eq_apply_iff]
      decide
    · exact Projection.apply_eq_apply_iff
    · exact Projection.apply_eq_apply_iff

theorem sample_names_apart :
    (∃ name otherName,
      Sample.schema.resolve .empty "article" "title" (.code "eng_GB") = .ok name ∧
      Sample.schema.resolve .empty "note" "title" .any = .ok otherName ∧ name ≠ otherName) ∧
    ∃ main name, Sample.schema.resolve .empty "article" "title" .main = .ok main ∧
      Sample.schema.resolve .empty "article" "title" (.code "eng_GB") = .ok name ∧
      name ≠ main := by
  have title : (⟨"article", "title", .string, true, true⟩ : FieldDefinition) ∈
      Sample.definitions := by decide
  have noteTitle : (⟨"note", "title", .text, true, true⟩ : FieldDefinition) ∈
      Sample.definitions := by decide
  obtain ⟨apart, ownApart⟩ := resolved_names_apart Sample.built
  constructor
  · obtain ⟨name, otherName, resolved, otherResolved, same⟩ := apart _ title _ noteTitle rfl rfl
      (.code "eng_GB") .any (Projection.not_namesKind (by decide))
      (Projection.not_namesKind (by decide))
    exact ⟨name, otherName, resolved, otherResolved, same.not.2 (by decide)⟩
  · obtain ⟨resolved, -, inLanguage⟩ := ownApart _ title rfl
    exact ⟨_, _, resolved rfl .main, resolved rfl (.code "eng_GB"),
      (inLanguage "eng_GB").1.not.2 (by decide)⟩

end Schema

namespace Sample

def lookalikes : List FieldDefinition := [
  ⟨"press", "note_title", .string, true, true⟩,
  ⟨"press_note", "title", .string, true, true⟩,
  ⟨"press_note_title_value", "s", .integer, false, true⟩]

end Sample

/-- Index names are shared by definitions that are spelled alike, by definitions with different base
names when a language code ends as a base name does, and by projections when a language code is
called as one of them. -/
theorem Schema.resolved_names_meet :
    ∃ schema, Schema.ofDefinitions Sample.lookalikes = .ok schema ∧
      schema.resolve .empty "press" "note_title" .main = .ok "press_note_title_value_s_main" ∧
      schema.resolve .empty "press_note" "title" .main = .ok "press_note_title_value_s_main" ∧
      schema.resolve .empty "press" "note_title" (.code "value_i") =
        .ok "press_note_title_value_s_value_i" ∧
      schema.resolve .empty "press_note_title_value" "s" .main =
        .ok "press_note_title_value_s_value_i" ∧
      schema.resolve .empty "press" "note_title" (.code "main") =
        .ok "press_note_title_value_s_main" :=
  ⟨_, rfl, by decide, by decide, by decide, by decide, by decide⟩

end ContentFinder
