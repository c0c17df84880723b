import ContentFinder.Index.Distance
import ContentFinder.Index.Query
import ContentFinder.Text.Token
import ContentFinder.Text.Wildcard

/-! Which documents a query matches, and with what score. -/

namespace ContentFinder

open Number

abbrev Score := Single

def onSide (position : Ordering) (inclusive : Bool) (wanted : Ordering) : Bool :=
  if position = .eq then inclusive else position == wanted

def ValueRange.holds (range : ValueRange) (value : IndexValue) : Bool :=
  check range.lower range.includeLower .gt && check range.upper range.includeUpper .lt
where
  check (bound : Option IndexValue) (inclusive : Bool) (wanted : Ordering) : Bool :=
    bound.all fun bound =>
      (value.compare? bound).any fun position => onSide position inclusive wanted

def Radius.holds (radius : Radius) (point : Double × Double) : Bool :=
  let away := distance (radius.latitude, radius.longitude) point
  check away radius.least radius.includeLeast .gt && check away radius.most radius.includeMost .lt
where
  check (away : Double) (bound : Option Double) (inclusive : Bool) (wanted : Ordering) : Bool :=
    bound.all fun bound => onSide (away.compareTotal bound) inclusive wanted

def termScore (terms : List Text.Term) (tokens : List String) : Option Score :=
  if terms.isEmpty then none
  else
    let counts := terms.map fun term => tokens.countP term.accepts
    if counts.any (· == 0) then none
    else some ((counts.map fun count => (.ofNat count : Score)).foldl (· + ·) .zero)

def fullTextScore (fields : List String) (text : String) (doc : Document) : Option Score :=
  termScore (Text.terms text) ((fields.flatMap doc.strings).flatMap Text.tokens)

def hit (matched : Bool) : Option Score :=
  if matched then some (.ofNat 1) else none

namespace IndexQuery

mutual

/-- The score of a document that a query matches. A conjunction has the sum of the scores of its
members, and a disjunction that of its matching members. -/
def score (doc : Document) : IndexQuery → Option Score
  | .matchAll => some (.ofNat 1)
  | .matchNone => none
  | .term field value => hit ((doc.get field).any (·.equals value))
  | .terms field values => hit ((doc.get field).any fun found => values.any (found.equals ·))
  | .range field ends => hit ((doc.get field).any ends.holds)
  | .wildcard field pattern => hit ((doc.strings field).any (Text.wildcardMatches · pattern))
  | .fullText fields text => fullTextScore fields text doc
  | .geoDistance field radius => hit ((doc.points field).any radius.holds)
  | .present field => hit (doc.has field)
  | .allOf queries =>
    let scores := scores doc queries
    if scores.all Option.isSome then some (scores.reduceOption.foldl (· + ·) .zero) else none
  | .anyOf queries =>
    let scores := scores doc queries
    if scores.any Option.isSome then some (scores.reduceOption.foldl (· + ·) .zero) else none
  | .notOf query => if (score doc query).isSome then none else some .zero

def scores (doc : Document) : List IndexQuery → List (Option Score)
  | [] => []
  | query :: rest => score doc query :: scores doc rest

end

theorem scores_eq_map (doc : Document) (queries : List IndexQuery) :
    scores doc queries = queries.map (score doc) := by
  induction queries with
  | nil => rfl
  | cons query rest ih => rw [scores, ih, List.map_cons]

def isMatch (query : IndexQuery) (doc : Document) : Bool :=
  (query.score doc).isSome

end IndexQuery

end ContentFinder
