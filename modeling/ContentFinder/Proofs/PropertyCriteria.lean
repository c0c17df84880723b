import Mathlib.Data.Set.List
import ContentFinder.Lowering.Basic
import ContentFinder.Proofs.Comparison
import ContentFinder.Proofs.IndexedFields
import ContentFinder.Proofs.OperandFit
import ContentFinder.Proofs.Wildcards

/-! What the criteria on the id and on the other properties of a content ask for. They are compared
with the content itself, and the query of such a criterion matches the document of a content just
when the content has what is asked for. -/

namespace ContentFinder

open Number

/-! The meaning of the criteria. -/

def Scalar.word? : Scalar → Option Int64
  | .integer value => some value
  | .string text => readWord (Text.trim text.toList)
  | _ => none

def Operator.Selects (operator : Operator) (operand : Operand) (wanted : Scalar → Prop) : Prop :=
  match operator, operand with
  | .eq, .single scalar => wanted scalar
  | .isIn, .list scalars => ∃ scalar ∈ scalars, wanted scalar
  | _, _ => False

def Operator.Places (operator : Operator) (operand : Operand) (second : Int64) : Prop :=
  match operator, operand with
  | .eq, .single (.integer bound) => second = bound
  | .gt, .single (.integer bound) => bound < second
  | .gte, .single (.integer bound) => bound ≤ second
  | .lt, .single (.integer bound) => second < bound
  | .lte, .single (.integer bound) => second ≤ bound
  | .isIn, .list bounds => .integer second ∈ bounds
  | .between, .list [.integer low, .integer high] => low ≤ second ∧ second ≤ high
  | _, _ => False

/-- What a property of a content is: a number or a name of its own, the path of a location, or a
whole second. -/
inductive Attribute where
  | number (value : Int64)
  | name (value : String)
  | path (value : String)
  | second (value : Int64)
deriving DecidableEq

namespace Attribute

def Satisfies (held : Attribute) (operator : Operator) (operand : Operand) : Prop :=
  match held with
  | .number value => operator.Selects operand fun scalar => scalar.word? = some value
  | .name value => operator.Selects operand fun scalar => scalar = .string value
  | .path value => operator.Selects operand fun scalar =>
    ∃ start, scalar = .string start ∧ start.toList <+: value.toList
  | .second value => operator.Places operand value

end Attribute

namespace Content

/-- The attributes that a property stands for. Those of locations are as many as the locations. -/
def attributes (content : Content) : Property → List Attribute
  | .contentTypeId => [.number content.info.contentTypeId]
  | .contentTypeIdentifier => [.name content.info.contentType]
  | .sectionId => [.number content.info.sectionId]
  | .remoteId => [.name content.info.remoteId]
  | .locationId => content.locations.map (.number ·.id)
  | .parentLocationId => content.locations.map (.number ·.parent)
  | .locationRemoteId => content.locations.map (.name ·.remoteId)
  | .subtree => content.locations.map (.path ·.path)
  | .dateModified => [.second content.info.modified.timestamp]
  | .datePublished => [.second content.info.published.timestamp]

end Content

def ContentIdLeaf.HoldsOf (leaf : ContentIdLeaf) (content : Content) : Prop :=
  (Attribute.number content.id).Satisfies leaf.comparison.operator leaf.comparison.operand

def PropertyLeaf.HoldsOf (leaf : PropertyLeaf) (content : Content) : Prop :=
  ∃ held ∈ content.attributes leaf.property,
    held.Satisfies leaf.comparison.operator leaf.comparison.operand

/-! Selecting. -/

/-- The tables of ids ask for one scalar or for a list, in both cases of the same types. -/
def selectingRows (types : List ScalarType) : List Specification :=
  [⟨.isIn, .list, some types, none⟩, ⟨.eq, .single, some types, none⟩]

section Selecting

variable {operator : Operator} {operand : Operand} {types : List ScalarType}
  {criterion target : String}
  (accepted : SpecificationTable.validate ⟨criterion, selectingRows types⟩ target operator operand =
    .ok ())

include accepted

theorem selecting_cases :
    (operator = .eq ∧ ∃ scalar, operand = .single scalar ∧ scalar.type ∈ types) ∨
      operator = .isIn ∧ ∃ scalars, operand = .list scalars ∧
        ∀ scalar ∈ scalars, scalar.type ∈ types := by
  obtain ⟨spec, found, fits⟩ := SpecificationTable.validate_eq_ok.1 accepted
  have typed := fits.types
  have shaped := fits.shape
  cases operator with
  | eq =>
    cases found
    cases operand with
    | single scalar => exact .inl ⟨rfl, scalar, rfl, typed _ rfl scalar List.mem_cons_self⟩
    | list scalars => cases shaped.1
  | isIn =>
    cases found
    cases operand with
    | single scalar => cases shaped
    | list scalars => exact .inr ⟨rfl, scalars, rfl, typed _ rfl⟩
  | _ => cases found

theorem type_mem_of_selecting {scalar : Scalar} (member : scalar ∈ operand.scalars) :
    scalar.type ∈ types := by
  obtain ⟨-, other, rfl, typed⟩ | ⟨-, scalars, rfl, typed⟩ := selecting_cases accepted
  · rwa [List.mem_singleton.1 member]
  · exact typed scalar member

theorem selects_iff {wanted : Scalar → Prop} :
    operator.Selects operand wanted ↔ ∃ scalar ∈ operand.scalars, wanted scalar := by
  obtain ⟨rfl, scalar, rfl, -⟩ | ⟨rfl, scalars, rfl, -⟩ := selecting_cases accepted
  · simp [Operator.Selects, Operand.scalars]
  · rfl

theorem accepts_selecting (kind : Option FieldKind) (value : IndexValue) :
    operator.accepts kind operand value =
      operand.scalars.any fun scalar => scalar.places kind value Ordering.isEq := by
  obtain ⟨rfl, scalar, rfl, -⟩ | ⟨rfl, scalars, rfl, -⟩ := selecting_cases accepted
  · rw [Operand.scalars, List.any_cons, List.any_nil, Bool.or_false]
    rfl
  · rfl

theorem accepts_iff_selects {kind : Option FieldKind} {value : IndexValue} {wanted : Scalar → Prop}
    (each : ∀ scalar, scalar.type ∈ types →
      (scalar.places kind value Ordering.isEq = true ↔ wanted scalar)) :
    operator.accepts kind operand value = true ↔ operator.Selects operand wanted := by
  rw [accepts_selecting accepted, selects_iff accepted, List.any_eq_true]
  apply exists_congr
  intro scalar
  apply and_congr_right
  intro member
  exact each scalar (type_mem_of_selecting accepted member)

end Selecting

/-! Values. -/

namespace Scalar

theorem places_number {scalar : Scalar} (typed : scalar.type ∈ [ScalarType.integer, .string])
    (value : Int64) :
    scalar.places (some .integer) (.integer value) Ordering.isEq = true ↔
      scalar.word? = some value := by
  have equal : ∀ bound : Int64, (compare value.toInt bound.toInt).isEq = true ↔
      some bound = some value := by
    intro bound
    rw [Ordering.isEq_iff_eq_eq, Std.compare_eq_iff_eq, Int64.toInt_inj, Option.some_inj]
    exact eq_comm
  cases scalar with
  | integer bound =>
    rw [places_of_coerce rfl]
    exact equal bound
  | string text =>
    rw [word?]
    cases spelled : readWord (Text.trim text.toList) with
    | none => simp [places, coerce, coerce?, spelled]
    | some bound =>
      have coerced : (string text).coerce (some .integer) = .ok (.integer bound) := by
        simp [coerce, coerce?, spelled]
      rw [places_of_coerce coerced]
      exact equal bound
  | _ => simp [type] at typed

theorem places_name {scalar : Scalar} (typed : scalar.type ∈ [ScalarType.string]) (value : String) :
    scalar.places (some .string) (.string value) Ordering.isEq = true ↔ scalar = .string value := by
  cases scalar with
  | string text =>
    rw [places_of_coerce rfl]
    show (compare value text).isEq = true ↔ _
    rw [Ordering.isEq_iff_eq_eq, Std.compare_eq_iff_eq, string.injEq]
    exact eq_comm
  | _ => simp [type] at typed

theorem places_second (bound value : Int64) (wanted : Ordering → Bool) :
    (integer bound).places (some .date) (.date value) wanted =
      wanted (compare value.toInt bound.toInt) := by
  rw [places_of_coerce rfl]
  rfl

theorem exists_integer {scalar : Scalar} (typed : scalar.type ∈ [ScalarType.integer]) :
    ∃ value, .integer value = scalar := by
  cases scalar with
  | integer value => exact ⟨value, rfl⟩
  | _ => simp [type] at typed

end Scalar

section Seconds

variable {operator : Operator} {operand : Operand} {count : Option Nat}

theorem exists_second
    (fits : Specification.Fits ⟨operator, .single, some [.integer], count⟩ operand) :
    ∃ bound, operand = .single (.integer bound) := by
  cases operand with
  | single scalar =>
    obtain ⟨bound, rfl⟩ := Scalar.exists_integer (fits.types _ rfl scalar List.mem_cons_self)
    exact ⟨bound, rfl⟩
  | list scalars => cases fits.shape.1

theorem exists_seconds
    (fits : Specification.Fits ⟨operator, .list, some [.integer], count⟩ operand) :
    ∃ bounds : List Int64, operand = .list (bounds.map .integer) ∧
      ∀ number ∈ count, bounds.length = number := by
  cases operand with
  | single scalar => cases fits.shape
  | list scalars =>
    have integers : scalars ∈ Set.range (List.map Scalar.integer) := by
      rw [Set.range_list_map]
      exact fun scalar member => Scalar.exists_integer (fits.types _ rfl scalar member)
    obtain ⟨bounds, rfl⟩ := integers
    refine ⟨bounds, rfl, fun number given => ?_⟩
    rw [← fits.shape.2.2 number given, List.length_map]

theorem accepts_second {criterion target : String}
    (accepted : SpecificationTable.validate ⟨criterion, dateRows⟩ target operator operand = .ok ())
    (value : Int64) :
    operator.accepts (some .date) operand (.date value) = true ↔ operator.Places operand value := by
  obtain ⟨spec, found, fits⟩ := SpecificationTable.validate_eq_ok.1 accepted
  cases operator with
  | eq | gt | gte | lt | lte =>
    cases found
    obtain ⟨bound, rfl⟩ := exists_second fits
    simp only [Operator.accepts, Operator.Places, Scalar.places_second, Ordering.isEq_iff_eq_eq,
      Ordering.isGT_iff_eq_gt, Ordering.isLT_iff_eq_lt, Std.compare_eq_iff_eq, Int.compare_eq_gt,
      Int.compare_eq_lt, Int.isGE_compare, Int.isLE_compare, Int64.toInt_inj,
      Int64.lt_iff_toInt_lt, Int64.le_iff_toInt_le]
  | isIn =>
    cases found
    obtain ⟨bounds, rfl, -⟩ := exists_seconds fits
    simp [Operator.accepts, Operator.Places, Operand.scalars, Scalar.places_second,
      Ordering.isEq_iff_eq_eq, Int64.toInt_inj]
  | between =>
    cases found
    obtain ⟨bounds, rfl, two⟩ := exists_seconds fits
    obtain ⟨low, high, rfl⟩ := List.length_eq_two.1 (two 2 rfl)
    show (_ && _) = true ↔ low ≤ value ∧ value ≤ high
    rw [Bool.and_eq_true, Scalar.places_second, Scalar.places_second, Int.isGE_compare,
      Int.isLE_compare, Int64.le_iff_toInt_le, Int64.le_iff_toInt_le]
  | like => cases found
  | contains => cases found

end Seconds

/-! The documents of contents. -/

def Attribute.stored : Attribute → IndexValue
  | .number value => .integer value
  | .name value | .path value => .string value
  | .second value => .date value

section Documents

variable {schema : Schema} {content : Content} {doc : Document} {property : Property}
  {operator : Operator} {operand : Operand} {target : String}

theorem get_indexField {field : String} {kind : FieldKind}
    (indexed : property.indexField? = some (field, kind))
    (mapped : content.toDocument schema = .ok doc) :
    doc.get field = (content.attributes property).map Attribute.stored := by
  cases property with
  | contentTypeId | contentTypeIdentifier | sectionId | remoteId | dateModified | datePublished =>
    cases indexed
    exact Content.get_single (by simp [Content.systemFields, Attribute.stored]) mapped
  | locationId | parentLocationId | locationRemoteId =>
    cases indexed
    rw [Content.attributes, List.map_map]
    exact Content.get_ofLocation (by decide) (fun _ => rfl) mapped
  | subtree => cases indexed

theorem strings_path (mapped : content.toDocument schema = .ok doc) :
    doc.strings IndexName.path = content.locations.map (·.path) := by
  have paths : doc.get IndexName.path =
      content.locations.map fun location => .string location.path :=
    Content.get_ofLocation (by decide) (fun _ => rfl) mapped
  rw [Document.strings, paths, List.filterMap_map]
  exact congrFun List.filterMap_eq_map _

theorem accepts_stored {field : String} {kind : FieldKind}
    (indexed : property.indexField? = some (field, kind))
    (accepted : property.table.validate target operator operand = .ok ()) {held : Attribute}
    (member : held ∈ content.attributes property) :
    operator.accepts (some kind) operand held.stored = true ↔ held.Satisfies operator operand := by
  cases property with
  | contentTypeId | sectionId =>
    cases indexed
    obtain rfl := List.mem_singleton.1 member
    exact accepts_iff_selects accepted fun scalar typed => Scalar.places_number typed _
  | locationId | parentLocationId =>
    cases indexed
    obtain ⟨location, -, rfl⟩ := List.mem_map.1 member
    exact accepts_iff_selects accepted fun scalar typed => Scalar.places_number typed _
  | contentTypeIdentifier | remoteId =>
    cases indexed
    obtain rfl := List.mem_singleton.1 member
    exact accepts_iff_selects accepted fun scalar typed => Scalar.places_name typed _
  | locationRemoteId =>
    cases indexed
    obtain ⟨location, -, rfl⟩ := List.mem_map.1 member
    exact accepts_iff_selects accepted fun scalar typed => Scalar.places_name typed _
  | dateModified | datePublished =>
    cases indexed
    obtain rfl := List.mem_singleton.1 member
    exact accepts_second accepted _
  | subtree => cases indexed

theorem isMatch_pathUnder_iff (start : String) :
    (IndexQuery.pathUnder start).isMatch doc = true ↔
      ∃ path ∈ doc.strings IndexName.path, start.toList <+: path.toList := by
  rw [IndexQuery.pathUnder, IndexQuery.isMatch_wildcard, List.any_eq_true]
  simp only [Text.wildcardMatches_escapeWildcards]

theorem isMatch_pathUnder (mapped : content.toDocument schema = .ok doc) (start : String) :
    (IndexQuery.pathUnder start).isMatch doc = true ↔
      ∃ location ∈ content.locations, start.toList <+: location.path.toList := by
  rw [isMatch_pathUnder_iff, strings_path mapped]
  simp only [List.mem_map, exists_exists_and_eq_and]

theorem satisfies_path
    (accepted : Property.subtree.table.validate target operator operand = .ok ()) (path : String) :
    (Attribute.path path).Satisfies operator operand ↔
      ∃ scalar ∈ operand.scalars, scalar.text.toList <+: path.toList := by
  rw [Attribute.Satisfies, selects_iff accepted]
  apply exists_congr
  intro scalar
  apply and_congr_right
  intro member
  have typed := type_mem_of_selecting accepted member
  cases scalar with
  | string start => simp [Scalar.text]
  | _ => simp [Scalar.type] at typed

theorem ContentIdLeaf.isMatch_lower_iff {leaf : ContentIdLeaf} {query : IndexQuery}
    (mapped : content.toDocument schema = .ok doc) (lowered : leaf.lower = .ok query) :
    query.isMatch doc = true ↔ leaf.HoldsOf content := by
  have stored : doc.get IndexName.id = [.integer content.info.id] :=
    Content.get_single List.mem_cons_self mapped
  rw [IndexQuery.isMatch_comparing lowered, stored, List.any_cons, List.any_nil, Bool.or_false]
  exact accepts_iff_selects leaf.comparison.accepted fun _ typed => Scalar.places_number typed _

theorem PropertyLeaf.isMatch_lower_iff {leaf : PropertyLeaf} {query : IndexQuery}
    (mapped : content.toDocument schema = .ok doc) (lowered : leaf.lower = .ok query) :
    query.isMatch doc = true ↔ leaf.HoldsOf content := by
  obtain ⟨property, comparison, formed⟩ := leaf
  unfold HoldsOf
  cases indexed : property.indexField? with
  | some pair =>
    rw [lower, indexed] at lowered
    rw [IndexQuery.isMatch_comparing lowered, get_indexField indexed mapped, List.any_map,
      List.any_eq_true]
    apply exists_congr
    intro held
    apply and_congr_right
    exact accepts_stored indexed comparison.accepted
  | none =>
    rw [lower, indexed] at lowered
    -- Paths are not compared as values, but by a pattern for each of them.
    obtain rfl : property = .subtree := by
      cases property <;> first | rfl | cases indexed
    rw [← Except.ok.inj lowered, IndexQuery.isMatch_any, List.any_map, List.any_eq_true]
    constructor
    · rintro ⟨scalar, given, matched⟩
      obtain ⟨location, inside, under⟩ := (isMatch_pathUnder mapped _).1 matched
      exact ⟨_, List.mem_map_of_mem inside,
        (satisfies_path comparison.accepted _).2 ⟨scalar, given, under⟩⟩
    · rintro ⟨held, member, satisfied⟩
      obtain ⟨location, inside, rfl⟩ := List.mem_map.1 member
      obtain ⟨scalar, given, under⟩ := (satisfies_path comparison.accepted _).1 satisfied
      exact ⟨scalar, given, (isMatch_pathUnder mapped _).2 ⟨location, inside, under⟩⟩

end Documents

namespace Criterion

variable {schema reader : Schema} {filter : LanguageFilter} {content : Content} {doc : Document}

/-- The criteria on the properties of contents find the contents whose properties they hold of. For
a property of locations one location is enough. -/
theorem isMatch_attribute_iff (mapped : content.toDocument schema = .ok doc) :
    (∀ leaf query, (Criterion.contentId leaf).lower reader filter = .ok query →
      (query.isMatch doc = true ↔ leaf.HoldsOf content)) ∧
      ∀ leaf query, (Criterion.property leaf).lower reader filter = .ok query →
        (query.isMatch doc = true ↔ leaf.HoldsOf content) :=
  ⟨fun _ _ lowered => ContentIdLeaf.isMatch_lower_iff mapped lowered,
    fun _ _ lowered => PropertyLeaf.isMatch_lower_iff mapped lowered⟩

end Criterion

/-! A content found by an id with a blank, by two paths, and by the second of its last change. -/

namespace Sample

def spacedSeven : ContentIdLeaf := ⟨⟨.eq, .single (.string " 7"), rfl⟩⟩

def belowRoots : PropertyLeaf :=
  ⟨.subtree, ⟨.isIn, .list [.string "/2/", .string "/1/"], rfl⟩, fun _ => rfl⟩

def changedUntil : PropertyLeaf :=
  ⟨.dateModified, ⟨.between, .list [.integer 1600000000, .integer 1700000000], rfl⟩, nofun⟩

end Sample

open Sample in
theorem Criterion.holdsOf_sample :
    spacedSeven.HoldsOf content ∧ belowRoots.HoldsOf content ∧ changedUntil.HoldsOf content := by
  have byId : (Criterion.contentId spacedSeven).lower schema .unrestricted = .ok _ := rfl
  have byPath : (Criterion.property belowRoots).lower schema .unrestricted = .ok _ := rfl
  have byDate : (Criterion.property changedUntil).lower schema .unrestricted = .ok _ := rfl
  exact ⟨((Criterion.isMatch_attribute_iff mapped).1 _ _ byId).1 rfl,
    ((Criterion.isMatch_attribute_iff mapped).2 _ _ byPath).1 rfl,
    ((Criterion.isMatch_attribute_iff mapped).2 _ _ byDate).1 rfl⟩

end ContentFinder
