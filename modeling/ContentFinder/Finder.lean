import ContentFinder.Content.Indexing
import ContentFinder.Content.Reading
import ContentFinder.Lowering.Basic
import ContentFinder.Settings.Basic

/-! The finder: contents go in, are found by criteria, and come out as a reader may see them. -/

namespace ContentFinder

inductive Connection where
  /-- The store itself keeps the time of a search. -/
  | direct
  /-- A relay adds a lag to every search, does not watch the time, and cannot suggest. -/
  | relayed (lag : Nat)
deriving DecidableEq, Repr

structure Finder where
  connection : Connection
  schema : Schema
  bounds : RequestBounds
  commitMode : CommitMode
deriving DecidableEq

namespace Finder

def ofSettings (connection : Connection) (settings : Settings) : Except Failure Finder := do
  settings.check.mapError fun fault => .config (.settings fault)
  let schema ← settings.schema
  return ⟨connection, schema, ⟨settings.search.maxLimit, settings.search.timeout⟩,
    settings.commitMode⟩

/-- Searches the store. An answer through a relay that took too long is dropped. -/
def search (finder : Finder) (store : Store) (request : SearchRequest) :
    Except Failure SearchResponse := do
  let response ← store.search request
  match finder.connection with
  | .direct => return response
  | .relayed lag =>
    let spent := store.latency + lag
    if request.budget < spent then throw (.unavailable (.answeredLate spent request.budget))
    return response

def execute (finder : Finder) (store : Store) (request : SearchRequest) :
    Except Failure SearchResult := do
  let response ← finder.search store request
  let hits ← response.hits.mapM fun hit => do
    return SearchHit.mk hit.score (← hit.doc.toContent finder.schema)
  return ⟨response.total, hits, response.facets⟩

def find (finder : Finder) (store : Store) (query : Query) (filter : LanguageFilter) :
    Except Failure SearchResult := do
  let request ← query.lower finder.schema finder.bounds filter
  let result ← finder.execute store request
  result.shownTo filter

def singleQuery (criterion : Criterion) : Query where
  filter := some criterion
  query := none
  sorts := []
  offset := 0
  limit := some 1
  facets := []

def findSingle (finder : Finder) (store : Store) (criterion : Criterion)
    (filter : LanguageFilter) : Except Failure Content := do
  let request ← (singleQuery criterion).lower finder.schema finder.bounds filter
  let result ← finder.execute store request
  if result.total ≠ 1 then throw (.objectCount 1 result.total)
  match (← result.shownTo filter).hits with
  | [] => throw (.notFound .matchingContent)
  | hit :: _ => return hit.content

/-- Texts that begin with what was typed. The names of contents are searched unless fields are
given. -/
def suggest (finder : Finder) (store : Store) (typed : String) (fields : List String)
    (limit : Nat) (criterion : Option Criterion) : Except Failure (List String) := do
  let query ← (criterion.getD .matchAll).lower finder.schema .unrestricted
  let fields := if fields.isEmpty then [IndexName.name] else fields
  match finder.connection with
  | .direct => store.suggest typed fields limit query
  | .relayed _ => throw (.notImplemented "suggest")

/-- Indexes contents in order. None is indexed if one of them has no document. -/
def index (finder : Finder) (contents : List Content) (mode : CommitMode) : Store.Update Unit := do
  let docs ← liftM (contents.mapM (Content.toDocument finder.schema))
  Store.index docs
  if mode = .sync then Store.refresh

def delete (id : Int64) : Store.Update Unit :=
  Store.delete (Number.wordText id)

/-- The milliseconds that a search spends waiting. One that has no request does not begin, and one
that meets a store that is offline does not wait for it. -/
def waiting (finder : Finder) (store : Store) (query : Query) (filter : LanguageFilter) : Nat :=
  match query.lower finder.schema finder.bounds filter with
  | .error _ => 0
  | .ok _ =>
    let lag := match finder.connection with
      | .direct => 0
      | .relayed lag => lag
    (if store.offline then 0 else store.latency) + lag

def within {α : Type} (limit waiting : Nat) (answer : Except Failure α) : Except Failure α :=
  if limit < waiting then .error (.unavailable (.timedOut limit)) else answer

def findWithin (finder : Finder) (limit : Nat) (store : Store) (query : Query)
    (filter : LanguageFilter) : Except Failure SearchResult :=
  within limit (finder.waiting store query filter) (finder.find store query filter)

def findSingleWithin (finder : Finder) (limit : Nat) (store : Store) (criterion : Criterion)
    (filter : LanguageFilter) : Except Failure Content :=
  within limit (finder.waiting store (singleQuery criterion) filter)
    (finder.findSingle store criterion filter)

end Finder

end ContentFinder
