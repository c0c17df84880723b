import ContentFinder.Content.Basic
import ContentFinder.Index.Facet
import ContentFinder.Failure

/-! Which contents a reader of some languages may see, and in which of their languages. -/

namespace ContentFinder

/-- The languages that a reader asked for, best first, and whether a content that is always
available may be shown in its main language instead. -/
structure LanguageFilter where
  languages : List String
  useAlwaysAvailable : Bool
deriving DecidableEq, Repr

namespace LanguageFilter

def unrestricted : LanguageFilter := ⟨[], false⟩

/-- Without languages asked for, every language will do. -/
def isUnrestricted (filter : LanguageFilter) : Bool := filter.languages.isEmpty

def priority (filter : LanguageFilter) (language : String) : Option Nat :=
  filter.languages.idxOf? language

end LanguageFilter

namespace Content

def allLanguages (content : Content) : List String :=
  let main := content.info.mainLanguage
  IndexQuery.distinct
    ((if content.hasLanguage main then [main] else []) ++ content.version.languages)

def visibleLanguages (content : Content) (filter : LanguageFilter) : List String :=
  if filter.isUnrestricted then content.allLanguages
  else
    match filter.languages.filter content.hasLanguage with
    | [] =>
      let main := content.info.mainLanguage
      if filter.useAlwaysAvailable && content.info.alwaysAvailable && content.hasLanguage main then
        [main]
      else []
    | languages => languages

def isVisible (content : Content) (filter : LanguageFilter) : Bool :=
  !(content.visibleLanguages filter).isEmpty

def restrict (content : Content) (languages : List String) : Content :=
  { content with fields := (IndexQuery.distinct languages).flatMap fun language =>
      content.fields.filter (·.language == language) }

end Content

structure SearchHit where
  score : Score
  content : Content
deriving DecidableEq

structure SearchResult where
  total : Nat
  hits : List SearchHit
  facets : List Facet
deriving DecidableEq

namespace SearchResult

def contentIds (result : SearchResult) : List Int64 :=
  result.hits.map (·.content.id)

def facet? (result : SearchResult) (name : String) : Option Facet :=
  result.facets.find? (·.name == name)

def firstHits (hits : List SearchHit) : List SearchHit :=
  hits.foldl (fun kept hit =>
    if kept.any (·.content.id == hit.content.id) then kept else kept ++ [hit]) []

def showHit (filter : LanguageFilter) (hit : SearchHit) : Except Failure SearchHit :=
  match hit.content.visibleLanguages filter with
  | [] => .error (.notFound (.visibleLanguage hit.content.id filter.languages))
  | languages => .ok { hit with content := hit.content.restrict languages }

/-- Shows the hits of a result to a reader. A content is shown once, and one that the reader may
not see is a failure. -/
def shownTo (result : SearchResult) (filter : LanguageFilter) : Except Failure SearchResult := do
  let hits := firstHits result.hits
  let shown ← hits.mapM (showHit filter)
  return { result with
    total := result.total - (result.hits.length - hits.length)
    hits := shown }

end SearchResult

structure TimedResult where
  result : SearchResult
  time : Nat
deriving DecidableEq

def TimedResult.shownTo (timed : TimedResult) (filter : LanguageFilter) :
    Except Failure TimedResult := do
  return { timed with result := ← timed.result.shownTo filter }

end ContentFinder
