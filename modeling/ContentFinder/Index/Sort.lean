import ContentFinder.Index.Matching
import ContentFinder.Sorting

/-! The order of hits. Each sort gives a document a key, and documents without one come last
whatever the direction. -/

namespace ContentFinder

open Number

inductive Direction where
  | ascending
  | descending
deriving DecidableEq, Repr

inductive IndexSort where
  | field (field : String) (direction : Direction)
  | geoDistance (field : String) (latitude longitude : Double) (direction : Direction)
  | score (direction : Direction)
deriving DecidableEq

def firstLeast {α : Type} (order : α → α → Ordering) : List α → Option α
  | [] => none
  | item :: rest =>
    some (rest.foldl (fun least next => if order next least = .lt then next else least) item)

def lastGreatest {α : Type} (order : α → α → Ordering) : List α → Option α
  | [] => none
  | item :: rest =>
    some (rest.foldl (fun greatest next =>
      if order next greatest = .lt then greatest else next) item)

namespace IndexSort

def direction : IndexSort → Direction
  | .field _ direction => direction
  | .geoDistance _ _ _ direction => direction
  | .score direction => direction

/-- The least value of a field ascending and the greatest descending, the nearest point of a
field, or the score. -/
def key (sort : IndexSort) (doc : Document) (score : Score) : Option IndexValue :=
  match sort with
  | .field name .ascending => firstLeast IndexValue.order (doc.get name)
  | .field name .descending => lastGreatest IndexValue.order (doc.get name)
  | .geoDistance name latitude longitude _ =>
    (firstLeast Binary.compareTotal
      ((doc.points name).map (distance (latitude, longitude)))).map .float
  | .score _ => some (.float (score.convert .double))

end IndexSort

def compareKeys (direction : Direction) : Option IndexValue → Option IndexValue → Ordering
  | none, none => .eq
  | none, some _ => .gt
  | some _, none => .lt
  | some x, some y =>
    match direction with
    | .ascending => x.order y
    | .descending => (x.order y).swap

/-- Ids that are numbers are compared as numbers, and all others as texts. -/
def compareIds (x y : String) : Ordering :=
  match readWord x.toList, readWord y.toList with
  | some i, some j => compare i.toInt j.toInt
  | _, _ => compare x y

structure Candidate where
  doc : Document
  score : Score
deriving DecidableEq

namespace Candidate

/-- The first sort that tells two candidates apart decides, and their ids decide if none does. -/
def order (sorts : List IndexSort) (x y : Candidate) : Ordering :=
  match sorts with
  | [] => compareIds x.doc.id y.doc.id
  | sort :: rest =>
    (compareKeys sort.direction (sort.key x.doc x.score) (sort.key y.doc y.score)).then
      (order rest x y)

/-- Puts candidates in order. Without sorts, the best score comes first. -/
def arrange (sorts : List IndexSort) (candidates : List Candidate) : List Candidate :=
  let sorts := if sorts.isEmpty then [.score .descending] else sorts
  Sorting.sortBy (fun x y => order sorts x y == .lt) candidates

end Candidate

end ContentFinder
