import ContentFinder.Data.Encode
import ContentFinder.Settings.Environment
import ContentFinder.Settings.Text
import ContentFinder.Settings.Toml

/-! Loading settings. The environment goes before the file, and the file before the standard
settings; records are merged member by member, and all else is replaced. -/

namespace ContentFinder

namespace Data

mutual

def overlay (under : Data) : Data → Data
  | .record members =>
    match under with
    | .record present => .record (overlayMembers present members)
    | _ => .record members
  | data => data

def overlayMember (present : List (String × Data)) : String × Data → List (String × Data)
  | (name, data) =>
    match member? present name with
    | some under => setMember present name (overlay under data)
    | none => present ++ [(name, data)]

def overlayMembers (present : List (String × Data)) : List (String × Data) → List (String × Data)
  | [] => present
  | member :: rest => overlayMembers (overlayMember present member) rest

end

end Data

inductive LoadFault where
  | malformed
  | fileNotFound
deriving DecidableEq, Repr

namespace Settings

/-- The settings of layers over the standard settings. A list in place of a record may be longer
than the record. -/
def ofLayers (layers : List Data) : Except LoadFault Settings :=
  match ofDataBy? Data.leadingMembers? (layers.foldl Data.overlay standard.toData) with
  | some settings => .ok settings
  | none => .error .malformed

def readToml (text : String) : Except LoadFault Data :=
  match Toml.read text with
  | some data => .ok data
  | none => .error .malformed

def ofToml (text : String) : Except LoadFault Settings := do
  ofLayers [← readToml text]

def environmentLayer (assignments : List (String × String)) : Data :=
  let values := assignments.filterMap fun (name, value) =>
    (Environment.keys? name).map fun keys => Environment.nest keys (Environment.read value)
  values.foldl Data.overlay (.record [])

def load (file : Option String) (assignments : List (String × String)) :
    Except LoadFault Settings := do
  let layer ← readToml (file.getD "")
  ofLayers [layer, environmentLayer assignments]

def loadFile (file : Option String) (assignments : List (String × String)) :
    Except LoadFault Settings :=
  if file.isNone then .error .fileNotFound else load file assignments

def toToml (settings : Settings) : Except LoadFault String :=
  match Toml.settingsText? settings with
  | some text => .ok text
  | none => .error .malformed

end Settings

end ContentFinder
