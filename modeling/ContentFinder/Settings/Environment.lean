import ContentFinder.Settings.Toml
import ContentFinder.Text.Blank

/-! Settings in environment variables. A name tells where its value belongs, and a value is read as
plain data where it has the form of some. -/

namespace ContentFinder.Environment

open Number

def isSpace (c : Char) : Bool :=
  c == ' ' || c == '\t' || c == '\n' || c == '\r' || c == '\x0c'

def skipSpace (text : List Char) : List Char := text.dropWhile isSpace

def isSeparator (c : Char) : Bool :=
  c == ',' || c == '[' || c == ']' || c == '\x7b' || c == '\x7d'

def isKeyChar (c : Char) : Bool :=
  c.isAlphanum || c == '_' || c == '-'

def float? (text : List Char) : Option Double :=
  if text.contains '.' then readBinary .double text else none

def integer? (text : List Char) : Option Int :=
  (readInt text).filter fun number => -wordBound ≤ number && number < countBound

/-- A word without marks: a number, or else a text. -/
def bare (text : List Char) : Data :=
  match float? text with
  | some value => .float value
  | none =>
    match integer? text with
    | some value => .integer value
    | none => .text (String.ofList text)

def after? (word : String) (text : List Char) : Option (List Char) :=
  if word.toList.isPrefixOf text then some (text.drop word.length) else none

def takeBytes? : Nat → List Char → Option (List Char)
  | 0, _ => some []
  | _, [] => none
  | count + 1, c :: rest =>
    if c.utf8Size ≤ count + 1 then (takeBytes? (count + 1 - c.utf8Size) rest).map (c :: ·) else none
termination_by count => count
decreasing_by have := c.utf8Size_pos; omega

/-- Reads a text behind its first quotation mark. Of what stands before the first escape as many
bytes are kept as there are characters. -/
def quoted (text : List Char) : Option (List Char × List Char) := do
  let (content, rest) ← Toml.basicString text (text.length + 1)
  let plain := text.takeWhile fun c => c != '"' && c != '\\'
  if (text.drop plain.length).head? = some '\\' then
    return ((← takeBytes? plain.length plain) ++ content.drop plain.length, rest)
  else return (content, rest)

mutual

/-- Reads a value. A truth value ends with its word, and blanks may follow all others. -/
def value (text : List Char) : Nat → Option (Data × List Char)
  | 0 => none
  | fuel + 1 =>
    let text := skipSpace text
    match after? "true" text, after? "false" text with
    | some rest, _ => some (.boolean true, rest)
    | none, some rest => some (.boolean false, rest)
    | none, none => (markedValue text fuel).map fun (data, rest) => (data, skipSpace rest)

def markedValue (text : List Char) : Nat → Option (Data × List Char)
  | 0 => none
  | fuel + 1 =>
    match text with
    | '"' :: rest => (quoted rest).map fun (content, tail) => (.text (String.ofList content), tail)
    | '\'' :: c :: '\'' :: rest => some (.text (String.singleton c), rest)
    | '\'' :: _ => none
    | '[' :: rest => (items rest fuel).map fun (found, tail) => (.list found, tail)
    | '\x7b' :: rest => (members [] rest fuel).map fun (found, tail) => (.record found, tail)
    | _ =>
      let word := text.takeWhile (! isSeparator ·)
      some (bare (Text.trim word), text.drop word.length)

def items (text : List Char) : Nat → Option (List Data × List Char)
  | 0 => none
  | fuel + 1 =>
    match text with
    | ']' :: tail => some ([], tail)
    | _ => do
      let (first, rest) ← value text fuel
      match rest with
      | ',' :: tail =>
        let (others, tail) ← items tail fuel
        return (first :: others, tail)
      | ']' :: tail => return ([first], tail)
      | _ => none

def members (present : List (String × Data)) (text : List Char) :
    Nat → Option (List (String × Data) × List Char)
  | 0 => none
  | fuel + 1 =>
    match text with
    | '\x7d' :: tail => some (present, tail)
    | _ => do
      let (key, rest) ← match skipSpace text with
        | '"' :: rest => quoted rest
        | rest =>
          let key := rest.takeWhile isKeyChar
          if key.isEmpty then none else some (key, rest.drop key.length)
      let '=' :: rest := skipSpace rest | none
      let (content, rest) ← value rest fuel
      let present := Data.setMember present (String.ofList key) content
      match rest with
      | ',' :: tail => members present tail fuel
      | '\x7d' :: tail => return (present, tail)
      | _ => none

end

def read (text : String) : Data :=
  match value text.toList (3 * text.length + 3) with
  | some (data, []) => data
  | _ => .text text

def nameStart : List Char := "content_search_".toList

def nameParts : List Char → List (List Char)
  | [] => [[]]
  | '_' :: '_' :: rest => [] :: nameParts rest
  | '.' :: rest => [] :: nameParts rest
  | c :: rest =>
    match nameParts rest with
    | [] => [[c]]
    | part :: parts => (c :: part) :: parts

/-- The keys that lead to the place of a variable's value. Blanks around the name do not count, nor
do those around what follows its beginning. -/
def keys? (name : String) : Option (List String) :=
  let lowered := (Text.trim name.toList).map Char.toLower
  if !nameStart.isPrefixOf lowered then none
  else
    let parts := nameParts (Text.trim (lowered.drop nameStart.length))
    if parts.any List.isEmpty then none else some (parts.map String.ofList)

def nest (keys : List String) (data : Data) : Data :=
  keys.foldr (fun key inner => .record [(key, inner)]) data

end ContentFinder.Environment
