import ContentFinder.Proofs.Registration

/-! Definitions in two indexes. One holds each definition under both of its names, and the other has
for each identifier the content types that define it. A definition goes into one after the other,
and one that is refused goes into neither, so both together answer as the schema does. -/

namespace ContentFinder

structure Catalogue where
  /-- The definitions, no two with the same names. Their order means nothing. -/
  held : List FieldDefinition
  /-- The content types that have a field, in ascending order. -/
  types : Dict (List String)

namespace Catalogue

abbrev Update := ExceptT Failure (StateM Catalogue)

def empty : Catalogue := ⟨[], .empty⟩

def definition? (catalogue : Catalogue) (contentType identifier : String) :
    Option FieldDefinition :=
  catalogue.held.find? fun definition =>
    definition.contentType == contentType && definition.identifier == identifier

def typesOf (catalogue : Catalogue) (identifier : String) : List String :=
  (catalogue.types.get? identifier).getD []

def definitionsFor (catalogue : Catalogue) (identifier : String) : List FieldDefinition :=
  (catalogue.typesOf identifier).filterMap fun contentType =>
    catalogue.definition? contentType identifier

def fieldsOf (catalogue : Catalogue) (contentType : String) : List FieldDefinition :=
  (catalogue.held.filter (·.contentType == contentType)).mergeSort
    fun a b => a.identifier ≤ b.identifier

def size (catalogue : Catalogue) : Nat := catalogue.held.length

def baseName (catalogue : Catalogue) (overrides : Overrides) (contentType identifier : String) :
    Except Failure String :=
  match overrides.get? contentType identifier with
  | some name => .ok name
  | none =>
    match (catalogue.definition? contentType identifier).filter (·.traits.searchable) with
    | some definition => .ok definition.baseName
    | none => .error (.unknownField (contentType ++ "/" ++ identifier))

def resolve (catalogue : Catalogue) (overrides : Overrides) (contentType identifier : String)
    (projection : Projection) : Except Failure String := do
  let base ← catalogue.baseName overrides contentType identifier
  let multilingual := (catalogue.definition? contentType identifier).any (·.traits.multilingual)
  return if multilingual then projection.apply base else base

def addType (definition : FieldDefinition) (catalogue : Catalogue) : Catalogue :=
  { catalogue with types := catalogue.types.alter definition.identifier fun present =>
      (present.getD [] ++ [definition.contentType]).mergeSort fun a b => a ≤ b }

def addDefinition (definition : FieldDefinition) (catalogue : Catalogue) : Catalogue :=
  { catalogue with held := catalogue.held ++ [definition] }

def approve (catalogue : Catalogue) (definition : FieldDefinition) : Except Failure Unit :=
  if definition.contentType = "" ∨ definition.identifier = "" then
    .error (.config .unnamedDefinition)
  else if (catalogue.definition? definition.contentType definition.identifier).isSome then
    .error (.config (.repeatedDefinition definition.contentType definition.identifier))
  else .ok ()

def register (definition : FieldDefinition) : Update Unit := do
  (← get).approve definition
  modify (addType definition)
  modify (addDefinition definition)

def after (catalogue : Catalogue) (definition : FieldDefinition) : Catalogue :=
  ((register definition).run catalogue).2

def afterAll (attempts : List FieldDefinition) : Catalogue :=
  attempts.foldl after empty

variable {catalogue : Catalogue} {schema next : Schema} {accepted : List FieldDefinition}
  {definition : FieldDefinition}

theorem run_register (definition : FieldDefinition) (catalogue : Catalogue) :
    (register definition).run catalogue =
      (catalogue.approve definition,
        match catalogue.approve definition with
        | .ok _ => addDefinition definition (addType definition catalogue)
        | .error _ => catalogue) := by
  show (do
    liftM (catalogue.approve definition)
    modify (addType definition)
    modify (addDefinition definition) : Update Unit).run catalogue = _
  cases catalogue.approve definition <;> rfl

/-! The definitions that a catalogue stands for. -/

/-- Both indexes are made from the definitions of one list. -/
structure Represents (catalogue : Catalogue) (accepted : List FieldDefinition) : Prop where
  fine : WellNamed accepted
  held_perm : catalogue.held.Perm accepted
  types_perm : ∀ identifier, (catalogue.typesOf identifier).Perm
    ((accepted.filter (·.identifier == identifier)).map (·.contentType))
  types_pairwise : ∀ identifier, (catalogue.typesOf identifier).Pairwise fun a b => a ≤ b

theorem represents_empty : empty.Represents [] :=
  ⟨wellNamed_nil, .refl _, fun _ => .refl _, fun _ => .nil⟩

theorem typesOf_add (identifier : String) :
    (addDefinition definition (addType definition catalogue)).typesOf identifier =
      if definition.identifier = identifier then
        (catalogue.typesOf identifier ++ [definition.contentType]).mergeSort fun a b => a ≤ b
      else catalogue.typesOf identifier := by
  unfold addDefinition addType typesOf
  rw [Dict.get?_alter]
  split_ifs with same
  · rw [same, Option.getD_some]
  · rfl

theorem Represents.add (represents : catalogue.Represents accepted)
    (fits : Fits accepted definition) :
    (addDefinition definition (addType definition catalogue)).Represents
      (accepted ++ [definition]) where
  fine := wellNamed_append_singleton.2 ⟨represents.fine, fits⟩
  held_perm := represents.held_perm.append_right _
  types_perm identifier := by
    rw [typesOf_add, List.filter_append, List.map_append]
    split_ifs with same
    · subst same
      have one : [definition].filter (·.identifier == definition.identifier) = [definition] := by
        simp
      rw [one]
      exact (List.mergeSort_perm _ _).trans ((represents.types_perm _).append_right _)
    · have none : [definition].filter (·.identifier == identifier) = [] := by simp [same]
      rw [none]
      simpa using represents.types_perm identifier
  types_pairwise identifier := by
    rw [typesOf_add]
    split_ifs
    · exact mergeSort_pairwise id _
    · exact represents.types_pairwise identifier

theorem Represents.definition?_eq_some (represents : catalogue.Represents accepted)
    {contentType identifier : String} :
    catalogue.definition? contentType identifier = some definition ↔
      definition ∈ accepted ∧ definition.contentType = contentType ∧
        definition.identifier = identifier := by
  have sound : ∀ {found}, catalogue.definition? contentType identifier = some found →
      found ∈ accepted ∧ found.contentType = contentType ∧ found.identifier = identifier := by
    intro found looked
    have member := represents.held_perm.subset (List.mem_of_find?_eq_some looked)
    have names := List.find?_some looked
    simp only [Bool.and_eq_true, beq_iff_eq] at names
    exact ⟨member, names⟩
  constructor
  · exact sound
  · rintro ⟨member, rfl, rfl⟩
    cases looked : catalogue.definition? definition.contentType definition.identifier with
    | none =>
      have held := represents.held_perm.mem_iff.2 member
      exact absurd (List.find?_eq_none.1 looked definition held) (by simp)
    | some found =>
      obtain ⟨listed, names⟩ := sound looked
      rw [represents.fine.eq_of_sameNames listed member names]

section Both

variable (represents : catalogue.Represents accepted) (answers : schema.Answers accepted)

include represents answers

theorem definition?_eq (contentType identifier : String) :
    catalogue.definition? contentType identifier = schema.definition? contentType identifier := by
  ext definition
  rw [represents.definition?_eq_some, answers.definition?_iff]

theorem approve_eq (definition : FieldDefinition) :
    catalogue.approve definition = (fun _ => ()) <$> schema.define definition := by
  unfold approve Schema.define
  rw [definition?_eq represents answers]
  split_ifs <;> rfl

theorem definitionsFor_eq (identifier : String) :
    catalogue.definitionsFor identifier = schema.definitionsFor identifier := by
  have types : catalogue.typesOf identifier =
      (schema.definitionsFor identifier).map (·.contentType) := by
    apply eq_of_sorted id _ (represents.types_pairwise identifier)
    · exact List.pairwise_map.2 (answers.definitionsFor_ascending identifier)
    · exact (represents.types_perm identifier).trans
        ((answers.definitionsFor_perm identifier).map _).symm
  have found : ∀ definition ∈ schema.definitionsFor identifier,
      catalogue.definition? definition.contentType identifier = some definition := by
    intro definition member
    rw [definition?_eq represents answers]
    exact Schema.mem_definitionsFor.1 member
  rw [definitionsFor, types, List.filterMap_map]
  exact (List.filterMap_congr found).trans List.filterMap_some

theorem fieldsOf_eq (contentType : String) :
    catalogue.fieldsOf contentType = schema.fieldsOf contentType := by
  apply mergeSort_eq_of_ascending FieldDefinition.identifier
  · exact (represents.held_perm.filter _).trans (answers.fieldsOf_perm contentType).symm
  · exact answers.fieldsOf_ascending contentType

theorem size_eq : catalogue.size = schema.size :=
  represents.held_perm.length_eq.trans answers.size_eq.symm

theorem baseName_eq (overrides : Overrides) (contentType identifier : String) :
    catalogue.baseName overrides contentType identifier =
      schema.baseName overrides contentType identifier := by
  have found := definition?_eq represents answers contentType identifier
  unfold baseName Schema.baseName
  exact found ▸ rfl

theorem resolve_eq (overrides : Overrides) (contentType identifier : String)
    (projection : Projection) :
    catalogue.resolve overrides contentType identifier projection =
      schema.resolve overrides contentType identifier projection := by
  rw [resolve, Schema.resolve, Schema.isMultilingual, baseName_eq represents answers,
    definition?_eq represents answers]

end Both

/-! Calls in order. -/

/-- A call does to the catalogue what it does to the list of accepted definitions. -/
theorem represents_after (represents : catalogue.Represents accepted)
    (built : Schema.ofDefinitions accepted = .ok schema) (definition : FieldDefinition) :
    (catalogue.after definition).Represents
      (accepted ++ Schema.acceptedOf schema [definition]) := by
  have approved := approve_eq represents (Schema.answers_of_ofDefinitions built) definition
  rw [after, run_register, approved, Schema.acceptedOf]
  obtain fits | ⟨offence, offends⟩ := fits_or_offends accepted definition
  · obtain ⟨next, added⟩ := Schema.define_of_fits built fits
    rw [added]
    exact represents.add fits
  · rw [Schema.define_of_offends built offends]
    exact (List.append_nil accepted).symm ▸ represents

theorem represents_afterAll (attempts : List FieldDefinition) :
    (afterAll attempts).Represents (Schema.acceptedOf .empty attempts) := by
  induction attempts using List.reverseRecOn with
  | nil => exact represents_empty
  | append_singleton attempts definition ih =>
    rw [afterAll, List.foldl_append, Schema.acceptedOf_append]
    exact represents_after ih (Schema.ofDefinitions_acceptedOf attempts) definition

/-! Questions. -/

/-- Two catalogues that differ in the order of the definitions alone. -/
structure Alike (catalogue other : Catalogue) : Prop where
  held_perm : catalogue.held.Perm other.held
  types_eq : catalogue.types = other.types

theorem Represents.alike {other : Catalogue} (represents : other.Represents accepted)
    (alike : catalogue.Alike other) : catalogue.Represents accepted := by
  have types : ∀ identifier, catalogue.typesOf identifier = other.typesOf identifier := by
    intro identifier
    rw [typesOf, typesOf, alike.types_eq]
  exact ⟨represents.fine, alike.held_perm.trans represents.held_perm,
    fun identifier => types identifier ▸ represents.types_perm identifier,
    fun identifier => types identifier ▸ represents.types_pairwise identifier⟩

end Catalogue

structure Replies where
  size : Nat
  definition? : String → String → Option FieldDefinition
  definitionsFor : String → List FieldDefinition
  fieldsOf : String → List FieldDefinition
  baseName : Overrides → String → String → Except Failure String
  resolve : Overrides → String → String → Projection → Except Failure String

def Schema.replies (schema : Schema) : Replies where
  size := schema.size
  definition? := schema.definition?
  definitionsFor := schema.definitionsFor
  fieldsOf := schema.fieldsOf
  baseName := schema.baseName
  resolve := schema.resolve

namespace Catalogue

variable {schema : Schema} {accepted : List FieldDefinition}

def replies (catalogue : Catalogue) : Replies where
  size := catalogue.size
  definition? := catalogue.definition?
  definitionsFor := catalogue.definitionsFor
  fieldsOf := catalogue.fieldsOf
  baseName := catalogue.baseName
  resolve := catalogue.resolve

theorem replies_eq {catalogue : Catalogue} (represents : catalogue.Represents accepted)
    (answers : schema.Answers accepted) : catalogue.replies = schema.replies := by
  unfold replies Schema.replies
  congr 1
  · exact size_eq represents answers
  · funext contentType identifier
    exact definition?_eq represents answers contentType identifier
  · funext identifier
    exact definitionsFor_eq represents answers identifier
  · funext contentType
    exact fieldsOf_eq represents answers contentType
  · funext overrides contentType identifier
    exact baseName_eq represents answers overrides contentType identifier
  · funext overrides contentType identifier projection
    exact resolve_eq represents answers overrides contentType identifier projection

theorem replies_of_alike {catalogue : Catalogue} {attempts : List FieldDefinition}
    (alike : catalogue.Alike (afterAll attempts)) :
    catalogue.replies = (Schema.attemptAll attempts).replies :=
  replies_eq ((represents_afterAll attempts).alike alike)
    (Schema.answers_of_ofDefinitions (Schema.ofDefinitions_acceptedOf attempts))

/-- After any attempts a schema answers by the accepted definitions, and the two indexes answer as
it does. What offends the accepted definitions is refused, and changes nothing. The same definitions
in another order are all accepted, and lead to the same answers. -/
theorem registered_exact (attempts : List FieldDefinition) :
    (Schema.attemptAll attempts).Answers (Schema.acceptedOf .empty attempts) ∧
    (∀ catalogue : Catalogue, catalogue.Alike (afterAll attempts) →
      catalogue.replies = (Schema.attemptAll attempts).replies) ∧
    (∀ definition, ((register definition).run (afterAll attempts)).1 =
      (fun _ => ()) <$> (Schema.attemptAll attempts).define definition) ∧
    (∀ definition failure, (Schema.attemptAll attempts).define definition = .error failure ↔
      ∃ offence, Offends (Schema.acceptedOf .empty attempts) definition offence ∧
        offence.failure = failure) ∧
    (∀ definition failure, (Schema.attemptAll attempts).define definition = .error failure →
      (Schema.attemptAll attempts).attempt definition = Schema.attemptAll attempts ∧
        ((register definition).run (afterAll attempts)).2 = afterAll attempts) ∧
    ∀ order, order.Perm (Schema.acceptedOf .empty attempts) →
      Schema.ofDefinitions order = .ok (Schema.attemptAll attempts) ∧
        ∀ catalogue : Catalogue, catalogue.Alike (afterAll order) →
          catalogue.replies = (Schema.attemptAll attempts).replies := by
  have built := Schema.ofDefinitions_acceptedOf attempts
  have answers := Schema.answers_of_ofDefinitions built
  have approved := fun definition => approve_eq (represents_afterAll attempts) answers definition
  refine ⟨answers, fun catalogue => replies_of_alike, fun definition => ?_,
    fun definition failure => Schema.define_eq_error_iff built,
    fun definition failure refused => ⟨?_, ?_⟩, fun order perm => ?_⟩
  · rw [run_register, approved]
  · rw [Schema.attempt, refused]
  · rw [run_register, approved, refused]
    rfl
  · have same := Schema.ofDefinitions_perm built perm
    refine ⟨same, fun catalogue alike => ?_⟩
    rw [replies_of_alike alike, Schema.attemptAll_of_ofDefinitions same]

def fiveAttempts : List FieldDefinition :=
  [⟨"folder", "name", ⟨.string, true, true⟩⟩, ⟨"", "name", ⟨.string, true, true⟩⟩,
    ⟨"article", "name", ⟨.string, false, true⟩⟩, ⟨"folder", "name", ⟨.text, false, true⟩⟩,
    ⟨"folder", "code", ⟨.integer, false, false⟩⟩]

def threeReversed : List FieldDefinition :=
  [⟨"folder", "code", ⟨.integer, false, false⟩⟩, ⟨"article", "name", ⟨.string, false, true⟩⟩,
    ⟨"folder", "name", ⟨.string, true, true⟩⟩]

def folderAgain : FieldDefinition := ⟨"folder", "name", ⟨.boolean, true, false⟩⟩

def turnedCatalogue : Catalogue :=
  { afterAll fiveAttempts with held := (afterAll fiveAttempts).held.reverse }

theorem registered_fiveAttempts :
    threeReversed.Perm (Schema.acceptedOf .empty fiveAttempts) ∧
    Schema.ofDefinitions threeReversed = .ok (Schema.attemptAll fiveAttempts) ∧
    turnedCatalogue.replies = (afterAll threeReversed).replies ∧
    (Schema.attemptAll fiveAttempts).size = 3 ∧
    ((register folderAgain).run (afterAll fiveAttempts)).2 = afterAll fiveAttempts := by
  have perm : threeReversed.Perm (Schema.acceptedOf .empty fiveAttempts) := by decide +kernel
  have alike : turnedCatalogue.Alike (afterAll fiveAttempts) := ⟨List.reverse_perm _, rfl⟩
  have refused : (Schema.attemptAll fiveAttempts).define folderAgain =
      .error (.config (.repeatedDefinition "folder" "name")) := by decide +kernel
  obtain ⟨answers, replies, -, -, unchanged, orders⟩ := registered_exact fiveAttempts
  obtain ⟨same, others⟩ := orders threeReversed perm
  have turned := (replies _ alike).trans (others _ ⟨.refl _, rfl⟩).symm
  have size := answers.size_eq.trans perm.length_eq.symm
  exact ⟨perm, same, turned, size, (unchanged _ _ refused).2⟩

end Catalogue

end ContentFinder
