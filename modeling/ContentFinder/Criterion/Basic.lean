import ContentFinder.Criterion.Leaf

/-! Criteria are trees of leaves under "all", "any" and "not". -/

namespace ContentFinder

inductive Criterion where
  | matchAll
  | matchNone
  | contentId (leaf : ContentIdLeaf)
  | property (leaf : PropertyLeaf)
  | language (leaf : LanguageLeaf)
  | field (leaf : FieldLeaf)
  | indexField (leaf : IndexFieldLeaf)
  | fullText (leaf : FullTextLeaf)
  | distance (leaf : DistanceLeaf)
  /-- Holds when every child does, and so when there is none. -/
  | allOf (children : List Criterion)
  /-- Holds when some child does. -/
  | anyOf (children : List Criterion)
  | notOf (child : Criterion)

namespace Criterion

def table? : Criterion → Option SpecificationTable
  | .contentId _ => some .contentId
  | .property leaf => some leaf.property.table
  | .language _ => some .languageCode
  | .field _ => some .field
  | .indexField _ => some .indexField
  | .fullText _ => some .fullText
  | .distance _ => some .distance
  | .matchAll | .matchNone | .allOf _ | .anyOf _ | .notOf _ => none

def operators (criterion : Criterion) : List Operator :=
  criterion.table?.elim [] (·.operators)

def isLeaf (criterion : Criterion) : Bool :=
  criterion.table?.isSome

mutual

def nodeCount : Criterion → Nat
  | .allOf children => 1 + nodeCounts children
  | .anyOf children => 1 + nodeCounts children
  | .notOf child => 1 + nodeCount child
  | _ => 1

def nodeCounts : List Criterion → Nat
  | [] => 0
  | child :: rest => nodeCount child + nodeCounts rest

end

def withId (id : Operand) : Except Failure Criterion :=
  return .contentId (← ContentIdLeaf.make .eq id)

def withIds (ids : Operand) : Except Failure Criterion :=
  return .contentId (← ContentIdLeaf.make .isIn ids)

def ofTypes (identifiers : Operand) : Except Failure Criterion :=
  return .property (← PropertyLeaf.make .contentTypeIdentifier .isIn identifiers)

def underPaths (paths : Operand) : Except Failure Criterion :=
  return .property (← PropertyLeaf.make .subtree .isIn paths)

def inLanguages (codes : Operand) (orAlwaysAvailable : Bool) : Except Failure Criterion :=
  return .language (← LanguageLeaf.make .isIn codes orAlwaysAvailable)

def searching (text : Operand) : Except Failure Criterion :=
  return .fullText (← FullTextLeaf.make .like text)

end Criterion

end ContentFinder
