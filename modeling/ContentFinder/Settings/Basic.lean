import ContentFinder.Field.Schema

/-! The settings of a finder and the rules for them. -/

namespace ContentFinder

/-- Whether a write can be found at once or after the next refresh. -/
inductive CommitMode where
  | eventual
  | sync
deriving DecidableEq, Repr

namespace CommitMode

def name : CommitMode → String
  | .eventual => "eventual"
  | .sync => "sync"

def all : List CommitMode := [.eventual, .sync]

end CommitMode

structure SearchSettings where
  maxLimit : Nat
  /-- The milliseconds that a request may take. -/
  timeout : Nat
deriving DecidableEq, Repr

structure LogSettings where
  level : String
  format : String
deriving DecidableEq, Repr

structure Settings where
  search : SearchSettings
  commitMode : CommitMode
  log : LogSettings
  fields : List FieldDefinition
deriving DecidableEq, Repr

namespace Settings

def standard : Settings where
  search := ⟨1000, 5000⟩
  commitMode := .eventual
  log := ⟨"info", "text"⟩
  fields := []

def checkSearch (search : SearchSettings) : Except SettingsFault Unit :=
  if search.maxLimit = 0 ∨ 100000 < search.maxLimit then .error (.pageLimit search.maxLimit)
  else if search.timeout = 0 then .error .noTime
  else .ok ()

def checkLog (log : LogSettings) : Except SettingsFault Unit :=
  if !logLevels.contains log.level then .error (.unknownLevel log.level)
  else if !logFormats.contains log.format then .error (.unknownFormat log.format)
  else .ok ()

def checkFields (seen : List (String × String)) :
    List FieldDefinition → Except SettingsFault Unit
  | [] => .ok ()
  | definition :: rest =>
    if definition.contentType = "" ∨ definition.identifier = "" then .error .unnamedField
    else if seen.contains (definition.contentType, definition.identifier) then
      .error (.repeatedField definition.contentType definition.identifier)
    else checkFields ((definition.contentType, definition.identifier) :: seen) rest

def check (settings : Settings) : Except SettingsFault Unit := do
  checkSearch settings.search
  checkLog settings.log
  checkFields [] settings.fields

def schema (settings : Settings) : Except Failure Schema :=
  Schema.ofDefinitions settings.fields

end Settings

end ContentFinder
