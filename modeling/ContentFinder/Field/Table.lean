import ContentFinder.Dict

/-! Tables with one entry per content type and field identifier. -/

namespace ContentFinder

structure FieldTable (α : Type) where
  types : Dict (Dict α)
deriving DecidableEq

namespace FieldTable

variable {α : Type}

def empty : FieldTable α := ⟨.empty⟩

def isEmpty (table : FieldTable α) : Bool :=
  table.types.isEmpty

def get? (table : FieldTable α) (contentType identifier : String) : Option α :=
  (table.types.get? contentType).bind (·.get? identifier)

def insert (table : FieldTable α) (contentType identifier : String) (value : α) : FieldTable α :=
  ⟨table.types.alter contentType fun fields => (fields.getD .empty).insert identifier value⟩

def size (table : FieldTable α) : Nat :=
  table.types.values.foldl (fun size fields => size + fields.size) 0

def having (table : FieldTable α) (identifier : String) : List (String × α) :=
  table.types.entries.filterMap fun entry =>
    (entry.2.get? identifier).map fun value => (entry.1, value)

def ofType (table : FieldTable α) (contentType : String) : List (String × α) :=
  (table.types.get? contentType).elim [] (·.entries)

theorem get?_insert (table : FieldTable α) (contentType identifier otherType other : String)
    (value : α) :
    (table.insert contentType identifier value).get? otherType other =
      if contentType = otherType ∧ identifier = other then some value
      else table.get? otherType other := by
  unfold insert get?
  rw [Dict.get?_alter]
  by_cases same : contentType = otherType
  · subst same
    cases table.types.get? contentType with
    | none =>
      by_cases equal : identifier = other <;> simp [Dict.get?_insert, Dict.get?_empty, equal]
    | some fields => by_cases equal : identifier = other <;> simp [Dict.get?_insert, equal]
  · simp [same]

end FieldTable

/-- Index names that a caller gives to fields in place of their own. -/
abbrev Overrides := FieldTable String

end ContentFinder
