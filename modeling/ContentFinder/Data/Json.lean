import ContentFinder.Data.Basic

/-! Reading JSON texts. -/

namespace ContentFinder.Json

open Number

def isSpace (c : Char) : Bool :=
  c == ' ' || c == '\t' || c == '\n' || c == '\r'

def skipSpace (text : List Char) : List Char :=
  text.dropWhile isSpace

/-- A part of a string: a character, or a 16-bit unit told by its number. -/
inductive StringPart where
  | char (c : Char)
  | unit (code : Nat)

def hexValue? (c : Char) : Option Nat :=
  if c.isDigit then some (c.toNat - '0'.toNat)
  else if 'a' ≤ c ∧ c ≤ 'f' then some (c.toNat - 'a'.toNat + 10)
  else if 'A' ≤ c ∧ c ≤ 'F' then some (c.toNat - 'A'.toNat + 10)
  else none

def hexNumber? (digits : List Char) : Option Nat :=
  digits.foldlM (fun number c => (hexValue? c).map (number * 16 + ·)) 0

def escaped? : Char → Option Char
  | '"' => some '"'
  | '\\' => some '\\'
  | '/' => some '/'
  | 'b' => some '\x08'
  | 'f' => some '\x0c'
  | 'n' => some '\n'
  | 'r' => some '\r'
  | 't' => some '\t'
  | _ => none

def stringParts : List Char → Option (List StringPart × List Char)
  | [] => none
  | '"' :: rest => some ([], rest)
  | '\\' :: 'u' :: a :: b :: c :: d :: rest => do
    let code ← hexNumber? [a, b, c, d]
    let (parts, tail) ← stringParts rest
    return (.unit code :: parts, tail)
  | '\\' :: c :: rest => do
    let c ← escaped? c
    let (parts, tail) ← stringParts rest
    return (.char c :: parts, tail)
  | c :: rest =>
    if c.toNat < 0x20 ∨ c = '\\' then none
    else do
      let (parts, tail) ← stringParts rest
      return (.char c :: parts, tail)

def isHighUnit (code : Nat) : Bool := 0xD800 ≤ code && code < 0xDC00

def isLowUnit (code : Nat) : Bool := 0xDC00 ≤ code && code < 0xE000

/-- The characters of the parts. Two units may tell one character, and half of it is none. -/
def joinParts : List StringPart → Option (List Char)
  | [] => some []
  | .char c :: rest => (joinParts rest).map (c :: ·)
  | .unit high :: .unit low :: rest =>
    if isHighUnit high then
      if isLowUnit low then
        (joinParts rest).map
          (Char.ofNat (0x10000 + (high - 0xD800) * 0x400 + (low - 0xDC00)) :: ·)
      else none
    else if isLowUnit high then none
    else (joinParts (.unit low :: rest)).map (Char.ofNat high :: ·)
  | .unit code :: rest =>
    if isHighUnit code || isLowUnit code then none
    else (joinParts rest).map (Char.ofNat code :: ·)

def string (text : List Char) : Option (Option String × List Char) :=
  (stringParts text).map fun (parts, rest) => ((joinParts parts).map String.ofList, rest)

def gather (number : Nat) : List Char → Nat × List Char
  | [] => (number, [])
  | c :: rest =>
    let next := number * 10 + digitValue c
    if next < countBound then gather next rest else (number, c :: rest)

/-- The significand times a power of ten, by rounded steps of at most `10 ^ 308`. It has no value
where it exceeds the format. -/
def scaleByTen (value : Double) (exponent : Int) : Nat → Option Double
  | 0 => some value
  | steps + 1 =>
    if exponent.natAbs ≤ 308 then
      let power : Double := .ofNat (Nat.pow 10 exponent.natAbs)
      if exponent < 0 then some (value.scaleDown power)
      else
        let product := value.scaleUp power
        if product.isInfinite then none else some product
    else if value.rank = 0 then some value
    else if 0 ≤ exponent then none
    else scaleByTen (value.scaleDown (.ofNat (Nat.pow 10 308))) (exponent + 308) steps

structure NumberText where
  negative : Bool
  whole : List Char
  fraction : List Char
  exponent : Option Int

/-- Integers of up to 64 bits stay integers, except the negative zero. -/
def NumberText.value (number : NumberText) : Data :=
  let (start, dropped) := gather 0 number.whole
  let (significand, left) :=
    if dropped.isEmpty || !number.fraction.isEmpty then gather start number.fraction
    else (start, [])
  let taken := number.fraction.length - left.length
  let exponent : Int := dropped.length - taken + number.exponent.getD 0
  let isInteger := number.fraction.isEmpty && number.exponent.isNone && dropped.isEmpty
  if isInteger && !number.negative then .integer significand
  else if isInteger && 0 < significand && significand ≤ wordBound then .integer (-significand)
  else
    match scaleByTen (.ofNat significand) exponent 8 with
    | none => .unusable
    | some size => .float { size with negative := number.negative }

def isExponentMark (c : Char) : Bool := c == 'e' || c == 'E'

def number (negative : Bool) (text : List Char) : Option (Data × List Char) := do
  let whole := text.takeWhile Char.isDigit
  let rest := text.dropWhile Char.isDigit
  let (whole, rest) ← match whole with
    | [] => none
    | '0' :: digits => some (['0'], digits ++ rest)
    | _ => some (whole, rest)
  let (fraction, rest) ← match rest with
    | '.' :: after =>
      if (after.takeWhile Char.isDigit).isEmpty then none
      else some (after.takeWhile Char.isDigit, after.dropWhile Char.isDigit)
    | _ => some ([], rest)
  let (exponent, rest) ← match rest with
    | mark :: after =>
      if !isExponentMark mark then some (none, rest)
      else
        let (sign, after) := match after with
          | '-' :: digits => (-1, digits)
          | '+' :: digits => ((1 : Int), digits)
          | _ => (1, after)
        let digits := after.takeWhile Char.isDigit
        if digits.isEmpty then none
        else some (some (sign * ofDigits digits), after.dropWhile Char.isDigit)
    | [] => some (none, [])
  return (NumberText.value ⟨negative, whole, fraction, exponent⟩, rest)

def recordOf (members : List (Option String × Data)) : Data :=
  match members.mapM fun member => member.1.map fun name => (name, member.2) with
  | some members => .record members
  | none => .unusable

mutual

def value (text : List Char) : Nat → Option (Data × List Char)
  | 0 => none
  | fuel + 1 =>
    match skipSpace text with
    | 'n' :: 'u' :: 'l' :: 'l' :: rest => some (.null, rest)
    | 't' :: 'r' :: 'u' :: 'e' :: rest => some (.boolean true, rest)
    | 'f' :: 'a' :: 'l' :: 's' :: 'e' :: rest => some (.boolean false, rest)
    | '"' :: rest => (string rest).map fun (content, tail) =>
        (content.elim .unusable .text, tail)
    | '[' :: rest =>
      match skipSpace rest with
      | ']' :: tail => some (.list [], tail)
      | _ => (items rest fuel).map fun (found, tail) => (.list found, tail)
    | '\x7b' :: rest =>
      match skipSpace rest with
      | '\x7d' :: tail => some (.record [], tail)
      | _ => (members rest fuel).map fun (found, tail) => (recordOf found, tail)
    | '-' :: rest => number true rest
    | rest => number false rest

def items (text : List Char) : Nat → Option (List Data × List Char)
  | 0 => none
  | fuel + 1 => do
    let (first, rest) ← value text fuel
    match skipSpace rest with
    | ',' :: tail =>
      let (others, tail) ← items tail fuel
      return (first :: others, tail)
    | ']' :: tail => return ([first], tail)
    | _ => none

def members (text : List Char) : Nat → Option (List (Option String × Data) × List Char)
  | 0 => none
  | fuel + 1 =>
    match skipSpace text with
    | '"' :: rest => do
      let (name, rest) ← string rest
      let ':' :: rest := skipSpace rest | none
      let (content, rest) ← value rest fuel
      match skipSpace rest with
      | ',' :: tail =>
        let (others, tail) ← members tail fuel
        return ((name, content) :: others, tail)
      | '\x7d' :: tail => return ([(name, content)], tail)
      | _ => none
    | _ => none

end

/-- Reads a text that holds one value and nothing besides it. Every step of the reader takes a
character or goes one level down, so the fuel is never used up. -/
def read (text : String) : Option Data :=
  match value text.toList (2 * text.length + 2) with
  | some (data, rest) => if (skipSpace rest).isEmpty then some data else none
  | none => none

end ContentFinder.Json
