import ContentFinder.Index.Sort

/-! Facets count how many matching documents have each value of a field. -/

namespace ContentFinder

structure FacetRequest where
  name : String
  field : String
  limit : Nat
deriving DecidableEq, Repr

structure Facet where
  name : String
  entries : List (String × Nat)
deriving DecidableEq, Repr

def rankEntries (entries : List (String × Nat)) : List (String × Nat) :=
  Sorting.sortBy (fun x y => y.2 < x.2 || x.2 == y.2 && x.1 < y.1) entries

def tally (texts : List String) : List (String × Nat) :=
  (IndexQuery.distinct texts).map fun text => (text, texts.count text)

namespace FacetRequest

/-- Counts a text once for every document that has it. -/
def answer (request : FacetRequest) (docs : List Document) : Facet :=
  let texts := docs.flatMap fun doc =>
    IndexQuery.distinct ((doc.get request.field).map IndexValue.text)
  ⟨request.name, (rankEntries (tally texts)).take request.limit⟩

end FacetRequest

end ContentFinder
