import ContentFinder.Settings.Basic

/-! Writing settings as TOML. Strings take the plainest of four forms that can hold them. -/

namespace ContentFinder.Toml

def isControl (c : Char) : Bool :=
  (c.toNat < 0x20 && c != '\t' && c != '\n') || c.toNat == 0x7F

def longestRun (mark : Char) (text : List Char) : Nat :=
  (text.foldl (fun (run, longest) c =>
    if c = mark then (run + 1, max longest (run + 1)) else (0, longest)) (0, 0)).2

inductive StringForm where
  | basic
  | literal
  | longBasic
  | longLiteral
deriving DecidableEq, Repr

namespace StringForm

def isLong (form : StringForm) : Bool :=
  form == .longBasic || form == .longLiteral

def mark : StringForm → List Char
  | .basic => ['"']
  | .literal => ['\'']
  | .longBasic => ['"', '"', '"']
  | .longLiteral => ['\'', '\'', '\'']

/-- The first form, from the plainest on, that holds a text as it is, or else one in which parts
are escaped. -/
def of (text : List Char) : StringForm :=
  let control := text.any isControl
  let escape := text.contains '\\'
  let lines := text.contains '\n'
  let quotes := longestRun '"' text
  let ticks := longestRun '\'' text
  if !control && !escape && quotes == 0 && !lines then .basic
  else if !control && ticks == 0 && !lines then .literal
  else if !control && !escape && quotes ≤ 2 then .longBasic
  else if !control && ticks ≤ 2 then .longLiteral
  else if lines then .longBasic
  else .basic

end StringForm

/-- Escapes what a string between quotation marks cannot hold. A long string holds line ends, and
up to two quotation marks in a row. -/
def escape (long : Bool) (quotes : Nat) : List Char → List Char
  | [] => []
  | c :: rest =>
    if c = '"' then
      if long && quotes < 2 then c :: escape long (quotes + 1) rest
      else '\\' :: c :: escape long 0 rest
    else
      let shown : List Char :=
        if c = '\x08' then ['\\', 'b']
        else if c = '\t' then ['\\', 't']
        else if c = '\n' then if long then [c] else ['\\', 'n']
        else if c = '\x0c' then ['\\', 'f']
        else if c = '\r' then ['\\', 'r']
        else if c = '\\' then ['\\', '\\']
        else if isControl c then
          '\\' :: 'u' :: ((Nat.toDigits 16 c.toNat).map Char.toUpper).leftpad 4 '0'
        else [c]
      shown ++ escape long 0 rest

def stringText (text : String) : String :=
  let content := text.toList
  let form := StringForm.of content
  let lead := if form.isLong && content.contains '\n' then ['\n'] else []
  let body :=
    match form with
    | .basic => escape false 0 content
    | .longBasic => escape true 0 content
    | .literal | .longLiteral => content
  String.ofList (form.mark ++ lead ++ body ++ form.mark)

def boolean (value : Bool) : String :=
  if value then "true" else "false"

def line (key value : String) : String :=
  key ++ " = " ++ value ++ "\n"

def fieldText (definition : FieldDefinition) : String :=
  "\n[[fields]]\n" ++
    line "content_type" (stringText definition.contentType) ++
    line "identifier" (stringText definition.identifier) ++
    line "kind" (stringText definition.traits.kind.name) ++
    line "translatable" (boolean definition.traits.multilingual) ++
    line "searchable" (boolean definition.traits.searchable)

def settingsText? (settings : Settings) : Option String :=
  if Number.wordBound ≤ settings.search.maxLimit ∨
      Number.wordBound ≤ settings.search.timeout then none
  else some <|
    (if settings.fields.isEmpty then line "fields" "[]" ++ "\n" else "") ++
    "[search]\n" ++
    line "max_limit" (toString settings.search.maxLimit) ++
    line "request_timeout_ms" (toString settings.search.timeout) ++
    "\n[indexing]\n" ++
    line "commit_mode" (stringText settings.commitMode.name) ++
    "\n[logging]\n" ++
    line "level" (stringText settings.log.level) ++
    line "format" (stringText settings.log.format) ++
    String.join (settings.fields.map fieldText)

end ContentFinder.Toml
