import ContentFinder.Content.Indexing
import ContentFinder.Proofs.FieldName
import ContentFinder.Proofs.Outcome

/-! The entries that a field makes in the index document of its content: its values under names
that its definition and its language decide, and its text. A document gains the entries of the
fields one after another. -/

namespace ContentFinder

open Outcome

namespace Document

def written (name : String) (entries : List (String × List IndexValue)) : List IndexValue :=
  entries.flatMap fun entry => if entry.1 = name then entry.2 else []

theorem written_append (name : String) (entries others : List (String × List IndexValue)) :
    written name (entries ++ others) = written name entries ++ written name others :=
  List.flatMap_append

theorem written_eq_nil {name : String} {entries : List (String × List IndexValue)}
    (apart : ∀ entry ∈ entries, entry.1 ≠ name) : written name entries = [] :=
  List.flatMap_eq_nil_iff.2 fun entry member => if_neg (apart entry member)

def listed (name : String) (entries : List (String × IndexValue)) : List IndexValue :=
  entries.filterMap fun entry => if entry.1 = name then some entry.2 else none

theorem listed_append (name : String) (entries others : List (String × IndexValue)) :
    listed name (entries ++ others) = listed name entries ++ listed name others :=
  List.filterMap_append

theorem listed_eq_nil {name : String} {entries : List (String × IndexValue)}
    (apart : ∀ entry ∈ entries, entry.1 ≠ name) : listed name entries = [] :=
  List.filterMap_eq_nil_iff.2 fun entry member => if_neg (apart entry member)

theorem listed_of_mem {entries : List (String × IndexValue)} {name : String} {value : IndexValue}
    (apart : entries.Pairwise fun a b => a.1 ≠ b.1) (member : (name, value) ∈ entries) :
    listed name entries = [value] := by
  induction entries with
  | nil => cases member
  | cons head rest ih =>
    obtain ⟨others, tail⟩ := List.pairwise_cons.1 apart
    rcases List.mem_cons.1 member with rfl | later
    · have none : listed name rest = [] :=
        listed_eq_nil fun entry inside same => others entry inside same.symm
      unfold listed at none ⊢
      rw [List.filterMap_cons, if_pos rfl, none]
    · have different : head.1 ≠ name := others _ later
      have rested := ih tail later
      unfold listed at rested ⊢
      rw [List.filterMap_cons, if_neg different, rested]

theorem get_new (id name : String) : (new id).get name = [] := rfl

theorem get_add_new (id name : String) (value : IndexValue) :
    ((new id).add name value).get name = [value] := by
  rw [add, get_extend, if_pos rfl, get_new, List.nil_append]

theorem id_foldl_add (entries : List (String × IndexValue)) (doc : Document) :
    (entries.foldl (fun doc entry => doc.add entry.1 entry.2) doc).id = doc.id := by
  induction entries generalizing doc with
  | nil => rfl
  | cons entry rest ih =>
    rw [List.foldl_cons, ih]
    rfl

theorem get_foldl_add (entries : List (String × IndexValue)) (doc : Document) (name : String) :
    (entries.foldl (fun doc entry => doc.add entry.1 entry.2) doc).get name =
      doc.get name ++ listed name entries := by
  induction entries generalizing doc with
  | nil => exact (List.append_nil _).symm
  | cons entry rest ih =>
    rw [List.foldl_cons, ih, add, get_extend]
    by_cases same : entry.1 = name <;> simp [listed, same]

end Document

def FieldKind.stored (kind : FieldKind) (value : FieldValue) : List IndexValue :=
  (kind.encode value).toOption.getD []

theorem FieldKind.stored_of_encode {kind : FieldKind} {value : FieldValue}
    {values : List IndexValue} (encoded : kind.encode value = .ok values) :
    kind.stored value = values := by
  rw [stored, encoded]
  rfl

def Projection.covers (projection : Projection) (content : Content) (field : Field) : Bool :=
  match projection with
  | .code language => field.language == language
  | .main => field.language == content.info.mainLanguage
  | .any => true

namespace Content

def definition? (schema : Schema) (content : Content) (field : Field) : Option FieldDefinition :=
  (schema.definition? content.info.contentType field.identifier).filter (·.traits.searchable)

def projected (content : Content) (base : String) (field : Field) (values : List IndexValue) :
    List (String × List IndexValue) :=
  [((Projection.code field.language).apply base, values), (Projection.any.apply base, values)] ++
    if field.language == content.info.mainLanguage then [(Projection.main.apply base, values)]
    else []

/-- The entries of the values of a field. A language-neutral field has them only if it is the first
with its identifier. -/
def valueEntries (content : Content) (definition : FieldDefinition) (isFirst : Bool)
    (field : Field) (values : List IndexValue) : List (String × List IndexValue) :=
  if definition.traits.multilingual then content.projected definition.baseName field values
  else if isFirst then [(definition.baseName, values)]
  else []

def textEntries (content : Content) (definition : FieldDefinition) (field : Field) :
    List (String × List IndexValue) :=
  match definition.traits.kind.fullText? field.value with
  | none => []
  | some text => content.projected IndexName.text field [.string text]

def entriesOf (schema : Schema) (content : Content) (isFirst : Bool) (field : Field) :
    List (String × List IndexValue) :=
  match content.definition? schema field with
  | none => []
  | some definition =>
    content.valueEntries definition isFirst field (definition.traits.kind.stored field.value) ++
      content.textEntries definition field

variable {schema : Schema} {content : Content} {field : Field}

theorem definition?_eq_some {definition : FieldDefinition} :
    content.definition? schema field = some definition ↔
      schema.definition? content.info.contentType field.identifier = some definition ∧
        definition.traits.searchable = true := by
  rw [Content.definition?, Option.filter_eq_some_iff]

theorem written_projected {base : String} {projection : Projection} (plain : projection.IsPlain)
    (plainField : IsPlainCode field.language) (target : String) (values : List IndexValue) :
    Document.written (projection.apply target) (content.projected base field values) =
      if base = target ∧ projection.covers content field = true then values else [] := by
  have code := @Projection.apply_inj (.code field.language) _ plainField plain base target
  have any := @Projection.apply_inj .any _ trivial plain base target
  have main := @Projection.apply_inj .main _ trivial plain base target
  by_cases isMain : field.language = content.info.mainLanguage
  · cases projection <;> simp_all [Document.written, projected, Projection.covers, and_comm]
  · cases projection <;> simp_all [Document.written, projected, Projection.covers, and_comm]

theorem written_projected_apart {base name : String}
    (apart : ∀ projection ∈ [Projection.code field.language, .any, .main],
      projection.apply base ≠ name)
    (values : List IndexValue) :
    Document.written name (content.projected base field values) = [] := by
  simp only [List.forall_mem_cons] at apart
  obtain ⟨code, any, main, -⟩ := apart
  unfold projected
  split <;> simp [Document.written, code, any, main]

theorem plain_of_mem (plainField : IsPlainCode field.language) {projection : Projection}
    (member : projection ∈ [Projection.code field.language, .any, .main]) :
    projection.IsPlain := by
  simp only [List.mem_cons, List.not_mem_nil, or_false] at member
  rcases member with rfl | rfl | rfl
  · exact plainField
  · trivial
  · trivial

theorem label_free_of_mem (free : '_' ∉ field.language.toList) {projection : Projection}
    (member : projection ∈ [Projection.code field.language, .any, .main]) :
    '_' ∉ projection.label.toList := by
  simp only [List.mem_cons, List.not_mem_nil, or_false] at member
  obtain rfl | rfl | rfl := member
  · exact free
  · decide
  · decide

/-- A field has entries for its language, for all languages, and for the main language at most. -/
theorem exists_of_mem_projected {base : String} {values : List IndexValue}
    {entry : String × List IndexValue} (member : entry ∈ content.projected base field values) :
    ∃ projection ∈ [Projection.code field.language, .any, .main],
      entry = (projection.apply base, values) := by
  obtain first | isMain := List.mem_append.1 member
  · obtain own | all := List.mem_cons.1 first
    · exact ⟨_, List.mem_cons_self, own⟩
    · exact ⟨.any, by simp, List.mem_singleton.1 all⟩
  · split at isMain
    · exact ⟨.main, by simp, List.mem_singleton.1 isMain⟩
    · cases isMain

end Content

namespace Draft

variable {schema : Schema} {content : Content} {field : Field} {draft next : Draft}

theorem get_addProjected (doc : Document) (base : String) (values : List IndexValue)
    (name : String) :
    (addProjected doc base field.language (field.language == content.info.mainLanguage)
        values).get name =
      doc.get name ++ Document.written name (content.projected base field values) := by
  unfold addProjected Content.projected Document.written
  split <;> simp only [Document.get_extend, List.flatMap_append, List.flatMap_cons,
    List.flatMap_nil, List.append_nil]
  · split_ifs <;> simp_all
  · split_ifs <;> simp_all

def hold (draft : Draft) (content : Content) (definition : FieldDefinition) (field : Field)
    (values : List IndexValue) : Draft :=
  if definition.traits.multilingual then
    { draft with
      doc := addProjected draft.doc definition.baseName field.language
        (field.language == content.info.mainLanguage) values }
  else if field.identifier ∈ draft.neutral then draft
  else ⟨draft.doc.extend definition.baseName values, field.identifier :: draft.neutral⟩

def holdText (draft : Draft) (content : Content) (definition : FieldDefinition) (field : Field) :
    Draft :=
  match definition.traits.kind.fullText? field.value with
  | none => draft
  | some text =>
    { draft with
      doc := addProjected draft.doc IndexName.text field.language
        (field.language == content.info.mainLanguage) [.string text] }

theorem addField_eq (schema : Schema) (content : Content) (draft : Draft) (field : Field) :
    draft.addField schema content field =
      match content.definition? schema field with
      | none => .ok draft
      | some definition => do
        let values ← definition.traits.kind.encode field.value
        return (draft.hold content definition field values).holdText content definition field := by
  unfold addField Content.definition?
  cases schema.definition? content.info.contentType field.identifier with
  | none => rfl
  | some definition =>
    by_cases searchable : definition.traits.searchable = true
    · rw [Option.filter_some, if_pos searchable]
      simp only [searchable]
      rfl
    · rw [Option.filter_some, if_neg searchable]
      simp only [searchable]
      rfl

theorem get_hold (draft : Draft) (content : Content) (definition : FieldDefinition)
    (field : Field) (values : List IndexValue) (name : String) :
    (draft.hold content definition field values).doc.get name = draft.doc.get name ++
      Document.written name
        (content.valueEntries definition (field.identifier ∉ draft.neutral) field values) := by
  unfold hold Content.valueEntries
  split
  · exact get_addProjected draft.doc definition.baseName values name
  · split
    · simp_all [Document.written]
    · rename_i fresh
      rw [decide_eq_true fresh, if_pos rfl, Document.get_extend, Document.written]
      by_cases same : definition.baseName = name <;> simp [same]

theorem get_holdText (draft : Draft) (content : Content) (definition : FieldDefinition)
    (field : Field) (name : String) :
    (draft.holdText content definition field).doc.get name = draft.doc.get name ++
      Document.written name (content.textEntries definition field) := by
  unfold holdText Content.textEntries
  split
  · exact (List.append_nil _).symm
  · exact get_addProjected draft.doc IndexName.text _ name

theorem neutral_holdText (draft : Draft) (content : Content) (definition : FieldDefinition)
    (field : Field) :
    (draft.holdText content definition field).neutral = draft.neutral := by
  unfold holdText
  split <;> rfl

/-- What one field does to a draft: the document gains the entries of the field. -/
theorem addField_ok (added : draft.addField schema content field = .ok next) :
    (∀ definition, content.definition? schema field = some definition →
      definition.traits.kind.encode field.value =
        .ok (definition.traits.kind.stored field.value)) ∧
    (∀ name, next.doc.get name = draft.doc.get name ++
      Document.written name (content.entriesOf schema (field.identifier ∉ draft.neutral) field)) ∧
    next.neutral =
      if (content.definition? schema field).any (! ·.traits.multilingual) ∧
        field.identifier ∉ draft.neutral then field.identifier :: draft.neutral
      else draft.neutral := by
  rw [addField_eq] at added
  unfold Content.entriesOf
  cases found : content.definition? schema field with
  | none =>
    rw [found] at added
    cases added
    exact ⟨nofun, fun name => (List.append_nil _).symm, rfl⟩
  | some definition =>
    rw [found] at added
    obtain ⟨values, encoded, same⟩ := bind_eq_ok.1 added
    cases same
    have stored := FieldKind.stored_of_encode encoded
    refine ⟨fun other same => ?_, fun name => ?_, ?_⟩
    · cases same
      rw [stored, encoded]
    · dsimp only
      rw [stored]
      rw [get_holdText, get_hold, Document.written_append, List.append_assoc]
    · rw [neutral_holdText, hold]
      by_cases multilingual : definition.traits.multilingual = true <;>
        by_cases known : field.identifier ∈ draft.neutral <;> simp [known, multilingual]

theorem id_addProjected (doc : Document) (base language : String) (isMain : Bool)
    (values : List IndexValue) :
    (addProjected doc base language isMain values).id = doc.id := by
  unfold addProjected
  split <;> rfl

theorem id_addField (added : draft.addField schema content field = .ok next) :
    next.doc.id = draft.doc.id := by
  rw [addField_eq] at added
  split at added
  · cases added
    rfl
  · obtain ⟨values, -, same⟩ := bind_eq_ok.1 added
    cases same
    unfold holdText hold
    split_ifs <;> split <;> simp only [id_addProjected, Document.extend]

theorem id_foldlM {fields : List Field} {final : Draft}
    (run : fields.foldlM (addField schema content) draft = .ok final) :
    final.doc.id = draft.doc.id := by
  induction fields generalizing draft with
  | nil =>
    cases run
    rfl
  | cons field rest ih =>
    rw [List.foldlM_cons] at run
    obtain ⟨next, added, later⟩ := bind_eq_ok.1 run
    rw [ih later, id_addField added]

theorem encode_foldlM {fields : List Field} {final : Draft}
    (run : fields.foldlM (addField schema content) draft = .ok final) :
    ∀ field ∈ fields, ∀ definition, content.definition? schema field = some definition →
      definition.traits.kind.encode field.value =
        .ok (definition.traits.kind.stored field.value) := by
  induction fields generalizing draft with
  | nil => simp
  | cons field rest ih =>
    rw [List.foldlM_cons] at run
    obtain ⟨next, added, later⟩ := bind_eq_ok.1 run
    exact List.forall_mem_cons.2 ⟨(addField_ok added).1, ih later⟩

/-- What stays true of the document when the entries of a field are added stays true throughout. -/
theorem foldlM_induction {motive : Document → Prop} {fields : List Field} {final : Draft}
    (step : ∀ field ∈ fields, ∀ (isFirst : Bool) (before after : Document),
      (∀ name, after.get name =
        before.get name ++ Document.written name (content.entriesOf schema isFirst field)) →
      motive before → motive after)
    (run : fields.foldlM (addField schema content) draft = .ok final)
    (start : motive draft.doc) : motive final.doc := by
  induction fields generalizing draft with
  | nil =>
    cases run
    exact start
  | cons field rest ih =>
    rw [List.foldlM_cons] at run
    obtain ⟨next, added, later⟩ := bind_eq_ok.1 run
    obtain ⟨here, others⟩ := List.forall_mem_cons.1 step
    exact ih others later (here _ draft.doc next.doc (addField_ok added).2.1 start)

/-- If each field gives a name the same values wherever it stands, the name has those of all. -/
theorem get_foldlM {fields : List Field} {final : Draft} {name : String}
    {share : Field → List IndexValue}
    (each : ∀ field ∈ fields, ∀ isFirst,
      Document.written name (content.entriesOf schema isFirst field) = share field)
    (run : fields.foldlM (addField schema content) draft = .ok final) :
    final.doc.get name = draft.doc.get name ++ fields.flatMap share := by
  induction fields generalizing draft with
  | nil =>
    cases run
    exact (List.append_nil _).symm
  | cons field rest ih =>
    rw [List.foldlM_cons] at run
    obtain ⟨next, added, later⟩ := bind_eq_ok.1 run
    obtain ⟨first, others⟩ := List.forall_mem_cons.1 each
    rw [ih others later, (addField_ok added).2.1 name, first, List.flatMap_cons,
      List.append_assoc]

/-- Of a name that the fields with one identifier share, only the first of them has values. -/
theorem get_foldlM_neutral {fields : List Field} {final : Draft} {definition : FieldDefinition}
    (found : ∀ field ∈ fields, field.identifier = definition.identifier →
      content.definition? schema field = some definition)
    (neutral : definition.traits.multilingual = false)
    (each : ∀ field ∈ fields, ∀ isFirst,
      Document.written definition.baseName (content.entriesOf schema isFirst field) =
        if field.identifier = definition.identifier ∧ isFirst = true then
          definition.traits.kind.stored field.value
        else [])
    (run : fields.foldlM (addField schema content) draft = .ok final) :
    final.doc.get definition.baseName = draft.doc.get definition.baseName ++
      if definition.identifier ∈ draft.neutral then []
      else (fields.find? (·.identifier == definition.identifier)).elim []
        (definition.traits.kind.stored ·.value) := by
  induction fields generalizing draft with
  | nil =>
    cases run
    simp
  | cons field rest ih =>
    rw [List.foldlM_cons] at run
    obtain ⟨next, added, later⟩ := bind_eq_ok.1 run
    obtain ⟨first, others⟩ := List.forall_mem_cons.1 each
    obtain ⟨foundHere, foundLater⟩ := List.forall_mem_cons.1 found
    obtain ⟨-, gains, marks⟩ := addField_ok added
    rw [ih foundLater others later, gains, first]
    by_cases same : field.identifier = definition.identifier
    · rw [marks, foundHere same]
      by_cases known : definition.identifier ∈ draft.neutral <;> simp [same, known, neutral]
    · have kept : definition.identifier ∈ next.neutral ↔ definition.identifier ∈ draft.neutral := by
        rw [marks]
        split <;> simp [Ne.symm same]
      simp [same, kept]

end Draft

end ContentFinder
