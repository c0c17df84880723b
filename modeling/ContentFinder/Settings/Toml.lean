import ContentFinder.Calendar.Date
import ContentFinder.Data.Json
import ContentFinder.Settings.Table

/-! Reading TOML texts. -/

namespace ContentFinder.Toml

open Number

def isSpace (c : Char) : Bool := c == ' ' || c == '\t'

def skipSpace (text : List Char) : List Char := text.dropWhile isSpace

def isForbidden (c : Char) : Bool :=
  (c.toNat < 0x20 && c != '\t') || c.toNat == 0x7F

def lineEnd? : List Char → Option (List Char)
  | '\n' :: rest => some rest
  | '\r' :: '\n' :: rest => some rest
  | _ => none

def skipComment : List Char → List Char
  | '#' :: rest => rest.dropWhile (! isForbidden ·)
  | text => text

def skipLines (text : List Char) : Nat → List Char
  | 0 => text
  | fuel + 1 =>
    let rest := skipComment (skipSpace text)
    match lineEnd? rest with
    | some tail => skipLines tail fuel
    | none => rest

def charOf? (code : Nat) : Option Char :=
  if code.isValidChar then some (Char.ofNat code) else none

def escaped? : List Char → Option (Char × List Char)
  | 'b' :: rest => some ('\x08', rest)
  | 't' :: rest => some ('\t', rest)
  | 'n' :: rest => some ('\n', rest)
  | 'f' :: rest => some ('\x0c', rest)
  | 'r' :: rest => some ('\r', rest)
  | '"' :: rest => some ('"', rest)
  | '\\' :: rest => some ('\\', rest)
  | 'u' :: rest => do
    if rest.length < 4 then none
    return (← charOf? (← Json.hexNumber? (rest.take 4)), rest.drop 4)
  | 'U' :: rest => do
    if rest.length < 8 then none
    return (← charOf? (← Json.hexNumber? (rest.take 8)), rest.drop 8)
  | _ => none

def basicString (text : List Char) : Nat → Option (List Char × List Char)
  | 0 => none
  | fuel + 1 =>
    match text with
    | '"' :: rest => some ([], rest)
    | '\\' :: rest => do
      let (c, rest) ← escaped? rest
      let (content, tail) ← basicString rest fuel
      return (c :: content, tail)
    | c :: rest =>
      if isForbidden c then none
      else do
        let (content, tail) ← basicString rest fuel
        return (c :: content, tail)
    | [] => none

def literalString (text : List Char) : Option (List Char × List Char) :=
  let content := text.takeWhile fun c => c != '\'' && !isForbidden c
  match text.drop content.length with
  | '\'' :: rest => some (content, rest)
  | _ => none

/-- The marks that end a long string are the last three of a run of up to five. -/
def closing? (mark : Char) (text : List Char) : Option (List Char × List Char) :=
  let run := text.takeWhile (· == mark)
  if 3 ≤ run.length ∧ run.length ≤ 5 then
    some (run.take (run.length - 3), text.drop run.length)
  else if 5 < run.length then some (run.take 2, text.drop 5)
  else none

def skipBlankLines : List Char → List Char
  | '\r' :: '\n' :: rest => skipBlankLines rest
  | c :: rest => if isSpace c || c == '\n' then skipBlankLines rest else c :: rest
  | [] => []

/-- Skips what a backslash at the end of a line folds away, if one stands in front. -/
def skipFold (text : List Char) : Option (List Char) :=
  (lineEnd? (skipSpace text)).map skipBlankLines

def longString (mark : Char) (escapes : Bool) (text : List Char) :
    Nat → Option (List Char × List Char)
  | 0 => none
  | fuel + 1 =>
    match closing? mark text with
    | some found => some found
    | none =>
      match lineEnd? text with
      | some rest => do
        let (content, tail) ← longString mark escapes rest fuel
        return ('\n' :: content, tail)
      | none =>
        match text with
        | [] => none
        | c :: rest =>
          if escapes && c == '\\' then
            match skipFold rest with
            | some rest => longString mark escapes rest fuel
            | none => do
              let (c, rest) ← escaped? rest
              let (content, tail) ← longString mark escapes rest fuel
              return (c :: content, tail)
          else if isForbidden c then none
          else do
            let (content, tail) ← longString mark escapes rest fuel
            return (c :: content, tail)

def dropFirstLineEnd (text : List Char) : List Char :=
  (lineEnd? text).getD text

def string? (text : List Char) : Option (List Char × List Char) :=
  match text with
  | '"' :: '"' :: '"' :: rest => longString '"' true (dropFirstLineEnd rest) (text.length + 1)
  | '"' :: rest => basicString rest (text.length + 1)
  | '\'' :: '\'' :: '\'' :: rest => longString '\'' false (dropFirstLineEnd rest) (text.length + 1)
  | '\'' :: rest => literalString rest
  | _ => none

def isBareKey (c : Char) : Bool :=
  c.isAlphanum || c == '_' || c == '-'

def simpleKey (text : List Char) : Option (String × List Char) :=
  match text with
  | '"' :: rest => (basicString rest (text.length + 1)).map fun (key, tail) =>
      (String.ofList key, tail)
  | '\'' :: rest => (literalString rest).map fun (key, tail) => (String.ofList key, tail)
  | _ =>
    let key := text.takeWhile isBareKey
    if key.isEmpty then none else some (String.ofList key, text.drop key.length)

/-- Lists and tables lie within each other at most this deep, and no more keys than this stand
between dots. -/
def nestingLimit : Nat := 79

def keysUpTo (text : List Char) : Nat → Option (List String × String × List Char)
  | 0 => none
  | limit + 1 => do
    let (key, rest) ← simpleKey (skipSpace text)
    match skipSpace rest with
    | '.' :: rest =>
      let (path, last, tail) ← keysUpTo rest limit
      return (key :: path, last, tail)
    | rest => return ([], key, rest)

def dottedKey (text : List Char) : Option (List String × String × List Char) :=
  keysUpTo text nestingLimit

def groupedDigits? (isDigit : Char → Bool) (text : List Char) : Option (List Char) :=
  match text with
  | [] => none
  | [c] => if isDigit c then some [c] else none
  | c :: '_' :: rest => if isDigit c then (groupedDigits? isDigit rest).map (c :: ·) else none
  | c :: rest => if isDigit c then (groupedDigits? isDigit rest).map (c :: ·) else none

def decimalDigits? (text : List Char) : Option (List Char) := do
  let digits ← groupedDigits? Char.isDigit text
  if 1 < digits.length && digits.head? == some '0' then none
  return digits

def splitSign : List Char → Bool × List Char
  | '-' :: rest => (true, rest)
  | '+' :: rest => (false, rest)
  | text => (false, text)

def basedInteger? (base : Nat) (text : List Char) : Option Int := do
  let isDigit := fun c => (Json.hexValue? c).any (· < base)
  let digits ← groupedDigits? isDigit text
  return digits.foldl (fun number c => number * base + (Json.hexValue? c).getD 0) 0

def integer? (text : List Char) : Option Data := do
  let value ← match text with
    | '0' :: 'x' :: rest => basedInteger? 16 rest
    | '0' :: 'o' :: rest => basedInteger? 8 rest
    | '0' :: 'b' :: rest => basedInteger? 2 rest
    | _ => do
      let (negative, rest) := splitSign text
      let digits ← decimalDigits? rest
      pure (if negative then -(ofDigits digits : Int) else ofDigits digits)
  let word ← Number.word? value
  return .integer word.toInt

def isExponentMark (c : Char) : Bool := c == 'e' || c == 'E'

/-- A number with a fraction or an exponent, or one of the names of what is not finite. A number may
lie below the range of the format, but not above it. -/
def float? (text : List Char) : Option Data := do
  let (negative, rest) := splitSign text
  if rest = "inf".toList then return .float (.infinity negative)
  if rest = "nan".toList then return .float (.notANumber negative)
  let mantissa := rest.takeWhile (! isExponentMark ·)
  let exponent ← match rest.drop mantissa.length with
    | [] => some []
    | _ :: tail =>
      let (below, digits) := splitSign tail
      (groupedDigits? Char.isDigit digits).map fun digits =>
        'e' :: (if below then ['-'] else []) ++ digits
  let whole ← decimalDigits? (mantissa.takeWhile (· != '.'))
  let fraction ← match mantissa.dropWhile (· != '.') with
    | [] => if exponent.isEmpty then none else some []
    | _ :: digits => (groupedDigits? Char.isDigit digits).map ('.' :: ·)
  let value ← readMagnitude .double negative (whole ++ fraction ++ exponent)
  if value = .infinity false then none
  return .float value

def twoDigits? (low high : Nat) (text : List Char) : Option (List Char) :=
  let number := ofDigits (text.take 2)
  if text.length < 2 || !(text.take 2).all Char.isDigit || number < low || high < number then none
  else some (text.drop 2)

def after? (mark : Char) : List Char → Option (List Char)
  | c :: rest => if c = mark then some rest else none
  | [] => none

def timeOfDay? (text : List Char) : Option (List Char) := do
  let rest ← twoDigits? 0 23 text
  let rest ← twoDigits? 0 59 (← after? ':' rest)
  let rest ← twoDigits? 0 60 (← after? ':' rest)
  match rest with
  | '.' :: tail =>
    if (tail.takeWhile Char.isDigit).isEmpty then none else some (tail.dropWhile Char.isDigit)
  | _ => some rest

def date? (text : List Char) : Option (List Char) := do
  if text.length < 10 || !(text.take 4).all Char.isDigit then none
  let year := ofDigits (text.take 4)
  let month ← after? '-' (text.drop 4)
  let day ← after? '-' (← twoDigits? 1 12 month)
  let rest ← twoDigits? 1 31 day
  if ofDigits (day.take 2) ≤ Calendar.daysIn year (ofDigits (month.take 2)) then some rest else none

def isZone (text : List Char) : Bool :=
  match text with
  | [] => true
  | ['Z'] | ['z'] => true
  | sign :: rest =>
    (sign == '+' || sign == '-') &&
      ((twoDigits? 0 23 rest).bind fun rest => (after? ':' rest).bind (twoDigits? 0 59)) == some []

def isMoment (text : List Char) : Bool :=
  match date? text with
  | some [] => true
  | some (c :: rest) =>
    (c == 'T' || c == 't' || c == ' ') && (timeOfDay? rest).any isZone
  | none => timeOfDay? text == some []

/-- A moment has no plain form, and is kept as a record of its text. -/
def moment? (text : List Char) : Option Data :=
  if isMoment text then
    some (.record [("$__toml_private_datetime", .text (String.ofList text))])
  else none

def isTokenChar (c : Char) : Bool :=
  c.isAlphanum || c == '+' || c == '-' || c == '_' || c == '.' || c == ':'

/-- The characters of a value without marks around it. A time of day may follow its date behind
one space. -/
def token (text : List Char) : List Char :=
  let first := text.takeWhile isTokenChar
  match text.drop first.length with
  | ' ' :: rest =>
    let second := rest.takeWhile isTokenChar
    if date? first == some [] && (second.head?.any Char.isDigit) then first ++ ' ' :: second
    else first
  | _ => first

def plainValue? (text : List Char) : Option (Data × List Char) := do
  let word := token text
  let value ←
    if word = "true".toList then some (.boolean true)
    else if word = "false".toList then some (.boolean false)
    else (integer? word <|> float? word) <|> moment? word
  return (value, text.drop word.length)

mutual

def value (levels : Nat) (text : List Char) : Nat → Option (Data × List Char)
  | 0 => none
  | fuel + 1 =>
    match text with
    | '"' :: _ | '\'' :: _ =>
      (string? text).map fun (content, tail) => (.text (String.ofList content), tail)
    | '[' :: rest =>
      if levels = 0 then none
      else (items (levels - 1) rest fuel).map fun (found, tail) => (.list found, tail)
    | '\x7b' :: rest =>
      if levels = 0 then none
      else
        match skipSpace rest with
        | '\x7d' :: tail => some (.record [], tail)
        | _ => (members (levels - 1) .root rest fuel).map fun (table, tail) => (table.toData, tail)
    | _ => plainValue? text

def items (levels : Nat) (text : List Char) : Nat → Option (List Data × List Char)
  | 0 => none
  | fuel + 1 =>
    match skipLines text (text.length + 1) with
    | ']' :: tail => some ([], tail)
    | rest => do
      let (first, rest) ← value levels rest fuel
      match skipLines rest (rest.length + 1) with
      | ',' :: tail =>
        let (others, tail) ← items levels tail fuel
        return (first :: others, tail)
      | ']' :: tail => return ([first], tail)
      | _ => none

def members (levels : Nat) (table : Table) (text : List Char) : Nat → Option (Table × List Char)
  | 0 => none
  | fuel + 1 => do
    let (path, key, rest) ← dottedKey text
    let '=' :: rest := rest | none
    let (content, rest) ← value levels (skipSpace rest) fuel
    let table ← table.addValue path key content
    match skipSpace rest with
    | ',' :: tail => members levels table tail fuel
    | '\x7d' :: tail => return (table, tail)
    | _ => none

end

def endOfLine? (text : List Char) : Option (List Char) :=
  let rest := skipComment (skipSpace text)
  if rest.isEmpty then some [] else lineEnd? rest

structure Progress where
  table : Table
  header : List String

def expression (progress : Progress) (text : List Char) : Option (Progress × List Char) := do
  match text with
  | '[' :: '[' :: rest =>
    let (path, key, rest) ← dottedKey rest
    let ']' :: ']' :: rest := rest | none
    return (⟨← progress.table.append path key, path ++ [key]⟩, ← endOfLine? rest)
  | '[' :: rest =>
    let (path, key, rest) ← dottedKey rest
    let ']' :: rest := rest | none
    return (⟨← progress.table.define path key, path ++ [key]⟩, ← endOfLine? rest)
  | _ =>
    let (path, key, rest) ← dottedKey text
    let '=' :: rest := rest | none
    let (content, rest) ← value nestingLimit (skipSpace rest) (2 * text.length + 2)
    return ({ progress with
      table := ← progress.table.addUnder progress.header path key content }, ← endOfLine? rest)

def expressions (progress : Progress) (text : List Char) : Nat → Option Table
  | 0 => none
  | fuel + 1 =>
    match skipLines text (text.length + 1) with
    | [] => some progress.table
    | rest => do
      let (progress, tail) ← expression progress rest
      expressions progress tail fuel

/-- Reads a whole text. A byte order mark in front of it does not count. -/
def read (text : String) : Option Data := do
  let content := match text.toList with
    | '\ufeff' :: rest => rest
    | rest => rest
  return (← expressions ⟨.root, []⟩ content (content.length + 2)).toData

end ContentFinder.Toml
