import ContentFinder.Dict
import ContentFinder.Index.Value

/-! Index documents: an id, and a list of values for every field name. -/

namespace ContentFinder

open Number

/-- A field may be there with no values. -/
structure Document where
  id : String
  fields : Dict (List IndexValue)
deriving DecidableEq

namespace Document

def new (id : String) : Document := ⟨id, .empty⟩

def extend (doc : Document) (field : String) (values : List IndexValue) : Document :=
  { doc with fields := doc.fields.alter field fun present => present.getD [] ++ values }

def add (doc : Document) (field : String) (value : IndexValue) : Document :=
  doc.extend field [value]

def get (doc : Document) (field : String) : List IndexValue :=
  (doc.fields.get? field).getD []

def first? (doc : Document) (field : String) : Option IndexValue :=
  (doc.get field).head?

def has (doc : Document) (field : String) : Bool :=
  !(doc.get field).isEmpty

def strings (doc : Document) (field : String) : List String :=
  (doc.get field).filterMap IndexValue.string?

def points (doc : Document) (field : String) : List (Double × Double) :=
  (doc.get field).filterMap IndexValue.point?

theorem get_extend (doc : Document) (field other : String) (values : List IndexValue) :
    (doc.extend field values).get other =
      if field = other then doc.get field ++ values else doc.get other := by
  unfold extend get
  rw [Dict.get?_alter]
  by_cases same : field = other <;> simp [same]

end Document

/-! The names of the fields that every document of a content has. -/

namespace IndexName

def id := "id"

def type := "type"

def typeIdentifier := "type_identifier"

def version := "version"

def status := "status"

def name := "name"

def creator := "creator"

def sectionId := "section"

def remoteId := "remote_id"

def modified := "modified"

def published := "published"

def mainLanguage := "main_language_code"

def alwaysAvailable := "always_available"

def language := "language_code"

def path := "path"

def location := "location"

def depth := "depth"

def parent := "location_parent"

def locationRemoteId := "location_remote_id"

def text := "text"

end IndexName

end ContentFinder
