import ContentFinder.Failure
import ContentFinder.Index.Facet

/-! The index in memory. Documents that are written wait until the next refresh, and only then can
be found. -/

namespace ContentFinder

structure SearchRequest where
  filter : IndexQuery
  query : IndexQuery
  sorts : List IndexSort
  offset : Nat
  limit : Nat
  facets : List FacetRequest
  /-- The milliseconds that the search may take. -/
  budget : Nat

structure SearchResponse where
  /-- The number of matching documents on all pages. -/
  total : Nat
  hits : List Candidate
  facets : List Facet
deriving DecidableEq

structure Store where
  /-- The documents that can be found, by their ids. -/
  committed : Dict Document
  /-- The documents written since the last refresh, in order. -/
  pending : List Document
  offline : Bool
  /-- The milliseconds that every search takes. -/
  latency : Nat
deriving DecidableEq

namespace Store

def empty : Store := ⟨.empty, [], false, 0⟩

/-- A call that may change the store, even one that fails. -/
abbrev Update := ExceptT Failure (StateM Store)

def size (store : Store) : Nat := store.committed.size

def get? (store : Store) (id : String) : Option Document := store.committed.get? id

def requireOnline (store : Store) : Except Failure Unit :=
  if store.offline then .error (.unavailable .offline) else .ok ()

def setOffline (offline : Bool) : Update Unit :=
  modify fun store => { store with offline }

def setLatency (latency : Nat) : Update Unit :=
  modify fun store => { store with latency }

def ifOnline (change : Store → Store) : Update Unit := do
  (← get).requireOnline
  modify change

theorem run_ifOnline (change : Store → Store) (store : Store) :
    (ifOnline change).run store =
      if store.offline then (.error (.unavailable .offline), store)
      else (.ok (), change store) := by
  obtain ⟨committed, pending, offline, latency⟩ := store
  cases offline <;> rfl

def index (docs : List Document) : Update Unit :=
  ifOnline fun store => { store with pending := store.pending ++ docs }

def delete (id : String) : Update Unit :=
  ifOnline fun store => { store with
    committed := store.committed.erase id
    pending := store.pending.filter (·.id != id) }

def purge : Update Unit :=
  ifOnline fun store => { store with committed := .empty, pending := [] }

/-- Commits the waiting documents in order. Of those with one id the last stays. -/
def refresh : Update Unit :=
  ifOnline fun store => { store with
    committed := store.pending.foldl (fun docs doc => docs.insert doc.id doc) store.committed
    pending := [] }

def candidates (store : Store) (filter query : IndexQuery) : List Candidate :=
  (store.committed.values.filter filter.isMatch).filterMap fun doc =>
    (query.score doc).map fun score => ⟨doc, score⟩

def search (store : Store) (request : SearchRequest) : Except Failure SearchResponse := do
  store.requireOnline
  if request.budget < store.latency then throw (.unavailable (.overBudget request.budget))
  let candidates := store.candidates request.filter request.query
  let arranged := Candidate.arrange request.sorts candidates
  return {
    total := candidates.length
    hits := (arranged.drop request.offset).take request.limit
    facets := request.facets.map (·.answer (candidates.map (·.doc))) }

def opensWith (beginning text : String) : Bool :=
  (Text.lower beginning.toList).isPrefixOf (Text.lower text.toList)

def suggest (store : Store) (typed : String) (fields : List String) (limit : Nat)
    (filter : IndexQuery) : Except Failure (List String) := do
  store.requireOnline
  let docs := store.committed.values.filter filter.isMatch
  let texts := docs.flatMap fun doc => (fields.flatMap doc.strings).filter (opensWith typed)
  return ((rankEntries (tally texts)).take limit).map (·.1)

end Store

end ContentFinder
