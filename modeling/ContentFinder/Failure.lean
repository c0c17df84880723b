import ContentFinder.Calendar.Scan
import ContentFinder.Field.Kind
import ContentFinder.Operator
import ContentFinder.Scalar
import ContentFinder.Settings.Fault

/-! Every way in which a call can fail. A failure keeps its cause, and its message is made from
the cause alone. -/

namespace ContentFinder

open Calendar Number

inductive ArgumentFault where
  | listGiven (target : String) (operator : Operator)
  | singleGiven (target : String) (operator : Operator)
  | noValues (target : String) (operator : Operator)
  | valueCount (target : String) (operator : Operator) (expected found : Nat)
  | valueType (target : String) (operator : Operator) (value : Scalar)
  | unnamedField
  | unnamedIndexField
  | blankSearch
  | malformedPath (path : String)
  | negativeDistance (target : String)
  | originOutside (target : String) (latitude longitude : Double)
  | unfitValue (value : Scalar) (kind : FieldKind)
  | notGeographic (contentType identifier : String) (kind : FieldKind)
  | patternOnOtherKind (field : String)
  | patternNotText (field : String) (value : Scalar)
  | oneValueNeeded (field : String)
  | twoValuesNeeded (field : String)
  | distanceNotNumeric (field : String) (value : Scalar)
  | timestampOutside (timestamp : Int64)
  | notIndexable (type : String) (kind : FieldKind)
  | pointOutside (latitude longitude : Double)
  | stated (text : String)
deriving DecidableEq

def pointText (latitude longitude : Double) : String :=
  "(" ++ latitude.text ++ ", " ++ longitude.text ++ ")"

def ArgumentFault.text : ArgumentFault → String
  | .listGiven target operator =>
    target ++ ": operator " ++ operator.name ++ " expects a single value, got an array"
  | .singleGiven target operator =>
    target ++ ": operator " ++ operator.name ++ " expects an array of values"
  | .noValues target operator =>
    target ++ ": operator " ++ operator.name ++ " requires at least one value"
  | .valueCount target operator expected found =>
    target ++ ": operator " ++ operator.name ++ " expects exactly " ++ toString expected ++
      " values, got " ++ toString found
  | .valueType target operator value =>
    target ++ ": value '" ++ value.text ++ "' has a type not accepted by operator " ++ operator.name
  | .unnamedField => "Field: field identifier must not be empty"
  | .unnamedIndexField => "CustomField: physical field name must not be empty"
  | .blankSearch => "FullText: search text must not be blank"
  | .malformedPath path => "Subtree: invalid path string '" ++ path ++ "'"
  | .negativeDistance target => target ++ ": distance must not be negative"
  | .originOutside target latitude longitude =>
    target ++ ": invalid origin " ++ pointText latitude longitude
  | .unfitValue value kind =>
    "value '" ++ value.text ++ "' cannot be used on a " ++ kind.title ++ " field"
  | .notGeographic contentType identifier kind =>
    contentType ++ "/" ++ identifier ++ " is a " ++ kind.title ++ " field, not a map location"
  | .patternOnOtherKind field => field ++ ": LIKE requires a string field"
  | .patternNotText field value =>
    field ++ ": LIKE requires a string pattern, got '" ++ value.text ++ "'"
  | .oneValueNeeded field => field ++ ": expected a single value"
  | .twoValuesNeeded field => field ++ ": expected exactly two values"
  | .distanceNotNumeric field value =>
    field ++ ": distance '" ++ value.text ++ "' is not numeric"
  | .timestampOutside timestamp => "timestamp " ++ wordText timestamp ++ " out of range"
  | .notIndexable type kind => "a " ++ type ++ " value cannot be indexed as " ++ kind.title
  | .pointOutside latitude longitude => "invalid coordinates " ++ pointText latitude longitude
  | .stated text => text

inductive Outage where
  | offline
  | overBudget (milliseconds : Nat)
  | answeredLate (milliseconds budget : Nat)
  | timedOut (milliseconds : Nat)
  | stated (text : String)
deriving DecidableEq

def Outage.text : Outage → String
  | .offline => "in-memory index is offline"
  | .overBudget budget => "search exceeded its " ++ toString budget ++ " ms budget"
  | .answeredLate spent budget =>
    "search took " ++ toString spent ++ " ms, budget is " ++ toString budget ++ " ms"
  | .timedOut limit => "operation timed out after " ++ toString limit ++ " ms"
  | .stated text => text

inductive Missing where
  | visibleLanguage (content : Int64) (languages : List String)
  | matchingContent
  | stated (text : String)
deriving DecidableEq

def Missing.text : Missing → String
  | .visibleLanguage content languages =>
    "content " ++ wordText content ++ " has no translation in " ++ Text.quotedList languages
  | .matchingContent => "matching content was not returned"
  | .stated text => text

inductive ConfigFault where
  | unnamedDefinition
  | repeatedDefinition (contentType identifier : String)
  | settings (fault : SettingsFault)
  | stated (text : String)
deriving DecidableEq

def ConfigFault.text : ConfigFault → String
  | .unnamedDefinition => "field definitions need a content type and an identifier"
  | .repeatedDefinition contentType identifier =>
    "duplicate field definition " ++ contentType ++ "/" ++ identifier
  | .settings fault => fault.message
  | .stated text => text

inductive DocumentFault where
  | notInteger
  | notString
  | notDate
  | unknownStatus (code : Int64)
  | misaligned
  | wrongType
deriving DecidableEq

def DocumentFault.text : DocumentFault → String
  | .notInteger => "is missing or not an integer"
  | .notString => "is missing or not a string"
  | .notDate => "holds an out of range timestamp"
  | .unknownStatus code => "unknown status " ++ wordText code
  | .misaligned => "is not aligned with the other location fields"
  | .wrongType => "holds a value of the wrong type"

inductive ReadFault where
  | document (id field : String) (fault : DocumentFault)
  | unknownZone (value : String)
  | date (value : String) (fault : DateFault)
  | data
  | stated (text : String)
deriving DecidableEq

def ReadFault.text : ReadFault → String
  | .document id field fault => "document " ++ id ++ ": field '" ++ field ++ "' " ++ fault.text
  | .unknownZone value => "unsupported time zone in '" ++ value ++ "'"
  | .date value fault => "invalid RFC 850 date '" ++ value ++ "': " ++ fault.message
  | .data => "malformed data"
  | .stated text => text

inductive Failure where
  | invalidArgument (fault : ArgumentFault)
  | invalidOperator (criterion operator : String)
  | unknownField (name : String)
  | unavailable (outage : Outage)
  | objectCount (expected found : Nat)
  | notFound (missing : Missing)
  | config (fault : ConfigFault)
  | serialization (fault : ReadFault)
  | notImplemented (operation : String)
  | internal (text : String)
deriving DecidableEq

namespace Failure

def code : Failure → String
  | .invalidArgument _ => "CSE-001"
  | .invalidOperator .. => "CSE-002"
  | .unknownField _ => "CSE-003"
  | .unavailable _ => "CSE-004"
  | .objectCount .. => "CSE-005"
  | .notFound _ => "CSE-006"
  | .config _ => "CSE-007"
  | .serialization _ => "CSE-008"
  | .notImplemented _ => "CSE-009"
  | .internal _ => "CSE-010"

def isRetryable : Failure → Bool
  | .unavailable _ => true
  | _ => false

def explanation : Failure → String
  | .invalidArgument fault => "Invalid argument: " ++ fault.text
  | .invalidOperator criterion operator =>
    "Operator " ++ operator ++ " is not supported by " ++ criterion
  | .unknownField name => "Unknown field: " ++ name
  | .unavailable outage => "Search backend unavailable: " ++ outage.text
  | .objectCount expected found =>
    "Expected exactly " ++ toString expected ++ " object to be found, found " ++ toString found
  | .notFound missing => "Not found: " ++ missing.text
  | .config fault => "Configuration error: " ++ fault.text
  | .serialization fault => "Serialization error: " ++ fault.text
  | .notImplemented operation => "Not implemented: " ++ operation
  | .internal text => "Internal error: " ++ text

def message (failure : Failure) : String :=
  "[" ++ failure.code ++ "] " ++ failure.explanation

end Failure

end ContentFinder
