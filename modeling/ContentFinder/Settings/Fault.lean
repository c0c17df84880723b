import ContentFinder.Text.Quoted

/-! What can be wrong with settings that were read. -/

namespace ContentFinder

def logLevels : List String := ["error", "warn", "info", "debug", "trace"]

def logFormats : List String := ["text", "json"]

inductive SettingsFault where
  | pageLimit (limit : Nat)
  | noTime
  | unknownLevel (level : String)
  | unknownFormat (format : String)
  | unnamedField
  | repeatedField (contentType identifier : String)
deriving DecidableEq

namespace SettingsFault

def key : SettingsFault → String
  | .pageLimit _ => "search.max_limit"
  | .noTime => "search.request_timeout_ms"
  | .unknownLevel _ => "logging.level"
  | .unknownFormat _ => "logging.format"
  | .unnamedField => "fields"
  | .repeatedField .. => "fields"

def notOneOf (value : String) (choices : List String) : String :=
  "value '" ++ value ++ "' is invalid, expected one of: " ++ Text.quotedList choices

def reason : SettingsFault → String
  | .pageLimit limit => "value " ++ toString limit ++ " is out of range [1, 100000]"
  | .noTime => "value must be > 0"
  | .unknownLevel level => notOneOf level logLevels
  | .unknownFormat format => notOneOf format logFormats
  | .unnamedField => "content_type and identifier must not be empty"
  | .repeatedField contentType identifier =>
    "field '" ++ contentType ++ "/" ++ identifier ++ "' is defined more than once"

def message (fault : SettingsFault) : String :=
  "Invalid configuration value for '" ++ fault.key ++ "': " ++ fault.reason

end SettingsFault

end ContentFinder
