import ContentFinder.Failure
import ContentFinder.Field.Table

/-! The schema knows which fields content types have and how the index names them. A field that
has a version per language is indexed under one name per language, one for the main language and
one for all languages together. -/

namespace ContentFinder

structure FieldTraits where
  kind : FieldKind
  multilingual : Bool
  searchable : Bool
deriving DecidableEq, Repr

structure FieldDefinition where
  contentType : String
  identifier : String
  traits : FieldTraits
deriving DecidableEq, Repr

def FieldDefinition.baseName (definition : FieldDefinition) : String :=
  definition.contentType ++ "_" ++ definition.identifier ++ "_value_" ++
    definition.traits.kind.suffix

/-- The languages whose values an index name stands for. -/
inductive Projection where
  | code (language : String)
  | main
  | any
deriving DecidableEq, Repr

def Projection.apply (projection : Projection) (base : String) : String :=
  match projection with
  | .code language => base ++ "_" ++ language
  | .main => base ++ "_main"
  | .any => base ++ "_all"

structure Schema where
  traits : FieldTable FieldTraits
deriving DecidableEq

namespace Schema

def empty : Schema := ⟨.empty⟩

def size (schema : Schema) : Nat :=
  schema.traits.size

def definition? (schema : Schema) (contentType identifier : String) : Option FieldDefinition :=
  (schema.traits.get? contentType identifier).map fun traits => ⟨contentType, identifier, traits⟩

def definitionsFor (schema : Schema) (identifier : String) : List FieldDefinition :=
  (schema.traits.having identifier).map fun entry => ⟨entry.1, identifier, entry.2⟩

def fieldsOf (schema : Schema) (contentType : String) : List FieldDefinition :=
  (schema.traits.ofType contentType).map fun entry => ⟨contentType, entry.1, entry.2⟩

/-- Adds a definition. It needs both names, and no earlier one may have the same names. -/
def define (schema : Schema) (definition : FieldDefinition) : Except Failure Schema :=
  if definition.contentType = "" ∨ definition.identifier = "" then
    .error (.config .unnamedDefinition)
  else if (schema.definition? definition.contentType definition.identifier).isSome then
    .error (.config (.repeatedDefinition definition.contentType definition.identifier))
  else
    .ok ⟨schema.traits.insert definition.contentType definition.identifier definition.traits⟩

def ofDefinitions (definitions : List FieldDefinition) : Except Failure Schema :=
  definitions.foldlM define empty

def baseName (schema : Schema) (overrides : Overrides) (contentType identifier : String) :
    Except Failure String :=
  match overrides.get? contentType identifier with
  | some name => .ok name
  | none =>
    match (schema.definition? contentType identifier).filter (·.traits.searchable) with
    | some definition => .ok definition.baseName
    | none => .error (.unknownField (contentType ++ "/" ++ identifier))

def isMultilingual (schema : Schema) (contentType identifier : String) : Bool :=
  (schema.definition? contentType identifier).any (·.traits.multilingual)

def resolve (schema : Schema) (overrides : Overrides) (contentType identifier : String)
    (projection : Projection) : Except Failure String := do
  let base ← schema.baseName overrides contentType identifier
  return if schema.isMultilingual contentType identifier then projection.apply base else base

end Schema

end ContentFinder
