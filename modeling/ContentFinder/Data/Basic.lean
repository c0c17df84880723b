import ContentFinder.Number.Decimal

/-! Trees of plain data, as JSON texts and settings hold them. -/

namespace ContentFinder

open Number

inductive Data where
  | null
  | boolean (value : Bool)
  | integer (value : Int)
  | float (value : Double)
  | text (value : String)
  | list (items : List Data)
  /-- Members in the order in which they stand, repetitions included. -/
  | record (members : List (String × Data))
  /-- A well-formed part whose value cannot be had. It does no harm where nothing is read from
  it. -/
  | unusable

namespace Data

mutual

/-- Whether every part has a value, and no part lies in more lists and records than a limit. -/
def isSound (limit : Nat) : Data → Bool
  | .unusable => false
  | .list items => 0 < limit && areSound (limit - 1) items
  | .record members => 0 < limit && haveSound (limit - 1) members
  | _ => true

def areSound (limit : Nat) : List Data → Bool
  | [] => true
  | item :: rest => isSound limit item && areSound limit rest

def isSoundMember (limit : Nat) : String × Data → Bool
  | (_, value) => isSound limit value

def haveSound (limit : Nat) : List (String × Data) → Bool
  | [] => true
  | member :: rest => isSoundMember limit member && haveSound limit rest

end

def member? (members : List (String × Data)) (name : String) : Option Data :=
  (members.find? (·.1 == name)).map (·.2)

def setMember (members : List (String × Data)) (name : String) (value : Data) :
    List (String × Data) :=
  if members.any (·.1 == name) then
    members.map fun member => if member.1 == name then (name, value) else member
  else members ++ [(name, value)]

def word? : Data → Option Int64
  | .integer value => Number.word? value
  | _ => none

def count? : Data → Option Nat
  | .integer value => if 0 ≤ value ∧ value < countBound then some value.toNat else none
  | _ => none

def double? : Data → Option Double
  | .integer value => some (.ofInt value)
  | .float value => some value
  | _ => none

def boolean? : Data → Option Bool
  | .boolean value => some value
  | _ => none

def text? : Data → Option String
  | .text value => some value
  | _ => none

def listOf? {α : Type} (read : Data → Option α) : Data → Option (List α)
  | .list items => items.mapM read
  | _ => none

/-- A choice among names: the name itself, or a record of the name with nothing. -/
def choice? {α : Type} (choices : List α) (name : α → String) : Data → Option α
  | .text value => choices.find? (name · == value)
  | .record [(value, .null)] => choices.find? (name · == value)
  | _ => none

end Data

/-- The members that make up a value. In a list they stand in their order without names. -/
structure Members where
  found : List (String × Data)
  inOrder : Bool

namespace Data

/-- The members of the given names, or the first items of a list in their place. No name may occur
twice, and members of other names are passed over. -/
def leadingMembers? (names : List String) : Data → Option Members
  | .record members =>
    let found := members.filter fun member => names.contains member.1
    if (found.map (·.1)).Nodup then some ⟨found, false⟩ else none
  | .list items => some ⟨names.zip items, true⟩
  | _ => none

def members? (names : List String) (data : Data) : Option Members :=
  match data with
  | .list items => if items.length ≤ names.length then data.leadingMembers? names else none
  | _ => data.leadingMembers? names

/-- Where data stands that tells its variant: by itself, or as a part of other such data. -/
inductive Standing where
  | whole
  | part
deriving DecidableEq, Repr

def variantName? (names : List String) (standing : Standing) : Data → Option String
  | .text name => if names.contains name then some name else none
  | .integer place => if standing = .part ∧ 0 ≤ place then names[place.toNat]? else none
  | _ => none

/-- The variant that one member of a record tells, and the members besides that. A list tells it
by its first item. -/
def variant? (tag : String) (names : List String) (standing : Standing) :
    Data → Option (String × Data)
  | .record members =>
    match members.filter (·.1 == tag) with
    | [(_, told)] => (variantName? names standing told).map fun name =>
        (name, .record (members.filter (·.1 != tag)))
    | _ => none
  | .list (told :: rest) => (variantName? names standing told).map fun name => (name, .list rest)
  | _ => none

def bare? : Data → Option Unit
  | .record _ => some ()
  | .list [] => some ()
  | _ => none

end Data

namespace Members

variable {α : Type}

def required (members : Members) (name : String) (read : Data → Option α) : Option α :=
  (Data.member? members.found name).bind read

def optional (members : Members) (name : String) (read : Data → Option α) : Option (Option α) :=
  match Data.member? members.found name with
  | none => if members.inOrder then none else some none
  | some .null => some none
  | some data => (read data).map some

def defaulted (members : Members) (name : String) (value : α) (read : Data → Option α) :
    Option α :=
  match Data.member? members.found name with
  | none => some value
  | some data => read data

end Members

end ContentFinder
