import ContentFinder.Number.Binary

/-! Decimal texts of floating point numbers. A number is written with the fewest digits that read
back to it, never with an exponent and never with a fraction of zero. -/

namespace ContentFinder.Number

structure Decimal where
  significand : Nat
  exponent : Int
deriving DecidableEq, Repr

namespace Decimal

/-- The nearest number of a format. Exponents beyond every format are settled by size alone. -/
def round (format : Format) (negative : Bool) (decimal : Decimal) : Binary format :=
  let digits : Int := (Nat.toDigits 10 decimal.significand).length
  if decimal.significand = 0 then ⟨negative, 0⟩
  else if 400 < decimal.exponent + digits then .infinity negative
  else if decimal.exponent + digits < -400 then ⟨negative, 0⟩
  else if decimal.exponent < 0 then
    .ofRatio negative decimal.significand (Nat.pow 10 decimal.exponent.natAbs)
  else .ofRatio negative (decimal.significand * Nat.pow 10 decimal.exponent.natAbs) 1

def text (decimal : Decimal) : String :=
  let trailing := (Nat.toDigits 10 decimal.significand).reverse.takeWhile (· == '0')
  let digits := (Nat.toDigits 10 decimal.significand).take
    ((Nat.toDigits 10 decimal.significand).length - trailing.length)
  let exponent := decimal.exponent + trailing.length
  let point := digits.length + exponent
  String.ofList <|
    if 0 ≤ exponent then digits ++ List.replicate exponent.natAbs '0'
    else if 0 < point then digits.take point.natAbs ++ '.' :: digits.drop point.natAbs
    else '0' :: '.' :: (List.replicate point.natAbs '0' ++ digits)

end Decimal

/-- The halves of the gaps below and above a magnitude, and the magnitude, all doubled. Every real
number between the two ends rounds to the magnitude, and the ends do too when the rank is even. -/
structure Neighborhood where
  low : Nat
  center : Nat
  high : Nat
  closed : Bool
deriving Repr

namespace Neighborhood

def around (format : Format) (rank : Nat) : Neighborhood where
  low := format.unitsAt (rank - 1) + format.unitsAt rank
  center := 2 * format.unitsAt rank
  high := format.unitsAt rank + format.unitsAt (rank + 1)
  closed := rank % 2 == 0

def holds (area : Neighborhood) (point : Nat) : Bool :=
  if area.closed then area.low ≤ point && point ≤ area.high
  else area.low < point && point < area.high

def grow (area : Neighborhood) (factor : Nat) : Neighborhood :=
  ⟨area.low * factor, area.center * factor, area.high * factor, area.closed⟩

/-- The nearer of the two neighbors of the center on a grid, of those that lie inside. Of two
equally near ones the upper is taken. -/
def onGrid (area : Neighborhood) (step : Nat) : Option Nat :=
  let down := area.center / step
  let up := down + 1
  match area.holds (down * step), area.holds (up * step) with
  | true, true =>
    if area.center - down * step < up * step - area.center then some down else some up
  | true, false => some down
  | false, true => some up
  | false, false => none

end Neighborhood

/-- The place of the first digit of a positive magnitude: it lies below `10 ^ place` and not below
`10 ^ (place - 1)`. -/
def leadingPlace (format : Format) (units : Nat) : Int :=
  (Nat.toDigits 10 (units * Nat.pow 10 400 / format.one)).length - 400

def shortestFrom (format : Format) (rank : Nat) (place : Int) (digits : Nat) : Nat → Decimal
  | 0 => ⟨0, 0⟩
  | more + 1 =>
    let exponent := place - digits
    let unit := 2 * format.one
    let area := Neighborhood.around format rank
    let hit :=
      if exponent < 0 then (area.grow (Nat.pow 10 exponent.natAbs)).onGrid unit
      else area.onGrid (unit * Nat.pow 10 exponent.natAbs)
    match hit with
    | some significand => ⟨significand, exponent⟩
    | none => shortestFrom format rank place (digits + 1) more

def shortest (format : Format) (rank : Nat) : Decimal :=
  shortestFrom format rank (leadingPlace format (format.unitsAt rank)) 1 20

namespace Binary

variable {format : Format}

def text (x : Binary format) : String :=
  if x.isNaN then "NaN"
  else
    let size :=
      if x.isInfinite then "inf"
      else if x.rank = 0 then "0"
      else (shortest format x.rank).text
    if x.negative then "-" ++ size else size

def fixedText (places : Nat) (x : Binary format) : String :=
  if x.isNaN then "NaN"
  else
    let size :=
      if x.isInfinite then "inf"
      else
        let scaled := x.magnitude * Nat.pow 10 places
        let unit := format.one
        let down := scaled / unit
        let rest := 2 * (scaled % unit)
        let rounded := if unit < rest || (rest == unit && down % 2 == 1) then down + 1 else down
        let digits := (Nat.toDigits 10 rounded).leftpad (places + 1) '0'
        String.ofList (digits.take (digits.length - places) ++
          '.' :: digits.drop (digits.length - places))
    if x.negative then "-" ++ size else size

end Binary

def readExponent : List Char → Option Int
  | [] => some 0
  | mark :: rest => if mark = 'e' ∨ mark = 'E' then readInt rest else none

def readDecimal (text : List Char) : Option Decimal := do
  let whole := text.takeWhile Char.isDigit
  let rest := text.dropWhile Char.isDigit
  let (fraction, tail) := match rest with
    | '.' :: after => (after.takeWhile Char.isDigit, after.dropWhile Char.isDigit)
    | _ => ([], rest)
  if whole.isEmpty && fraction.isEmpty then none
  let exponent ← readExponent tail
  return ⟨ofDigits (whole ++ fraction), exponent - fraction.length⟩

def readMagnitude (format : Format) (negative : Bool) (text : List Char) :
    Option (Binary format) :=
  let name := text.map Char.toLower
  if name = "inf".toList ∨ name = "infinity".toList then some (.infinity negative)
  else if name = "nan".toList then some (.notANumber negative)
  else (readDecimal text).map (·.round format negative)

def readBinary (format : Format) : List Char → Option (Binary format)
  | '-' :: rest => readMagnitude format true rest
  | '+' :: rest => readMagnitude format false rest
  | rest => readMagnitude format false rest

end ContentFinder.Number
