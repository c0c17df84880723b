import ContentFinder.Number.Integer

/-! Binary floating point numbers, kept so that every question about them is one about whole
numbers. The magnitudes of a format, in increasing order, are numbered by ranks: rank 0 is zero,
infinity follows the largest finite number, and what lies past infinity is not a number. Every
finite magnitude is a whole number of units, and the unit is the smallest positive magnitude. -/

namespace ContentFinder.Number

structure Format where
  fractionBits : Nat
  exponentBits : Nat
deriving DecidableEq, Repr

namespace Format

def double : Format := ⟨52, 11⟩

def single : Format := ⟨23, 8⟩

/-- The unit is `2 ^ (-scale)`. -/
def scale (format : Format) : Nat :=
  Nat.pow 2 (format.exponentBits - 1) + format.fractionBits - 2

def one (format : Format) : Nat :=
  Nat.pow 2 format.scale

def span (format : Format) : Nat :=
  Nat.pow 2 format.fractionBits

def infinityRank (format : Format) : Nat :=
  (Nat.pow 2 format.exponentBits - 1) * format.span

def unitsAt (format : Format) (rank : Nat) : Nat :=
  let exponent := rank / format.span
  if exponent = 0 then rank
  else (format.span + rank % format.span) * Nat.pow 2 (exponent - 1)

def rankBelow (format : Format) (units : Nat) : Nat :=
  let spare := units.log2 - format.fractionBits
  spare * format.span + units / Nat.pow 2 spare

/-- The rank nearest to a quotient of units. A tie goes to the even rank, and what lies past the
largest finite number goes to infinity. -/
def nearestRank (format : Format) (numerator denominator : Nat) : Nat :=
  let below := format.rankBelow (numerator / denominator)
  let twice := 2 * numerator
  let middle := (format.unitsAt below + format.unitsAt (below + 1)) * denominator
  let nearest :=
    if twice < middle then below
    else if middle < twice then below + 1
    else if below % 2 = 0 then below else below + 1
  min nearest format.infinityRank

end Format

/-- A number of a format: a sign and the rank of its magnitude. -/
structure Binary (format : Format) where
  negative : Bool
  rank : Nat
deriving DecidableEq, Repr

abbrev Double := Binary .double

abbrev Single := Binary .single

namespace Binary

variable {format : Format}

instance : Inhabited (Binary format) := ⟨⟨false, 0⟩⟩

def zero : Binary format := ⟨false, 0⟩

def infinity (negative : Bool) : Binary format := ⟨negative, format.infinityRank⟩

def notANumber (negative : Bool) : Binary format :=
  ⟨negative, format.infinityRank + format.span / 2⟩

def isNaN (x : Binary format) : Bool := format.infinityRank < x.rank

def isInfinite (x : Binary format) : Bool := x.rank == format.infinityRank

def isFinite (x : Binary format) : Bool := x.rank < format.infinityRank

def magnitude (x : Binary format) : Nat := format.unitsAt x.rank

def units (x : Binary format) : Int :=
  if x.negative then -(x.magnitude : Int) else x.magnitude

def ofRatio (negative : Bool) (numerator denominator : Nat) : Binary format :=
  ⟨negative, format.nearestRank (numerator * format.one) denominator⟩

def ofInt (number : Int) : Binary format :=
  ofRatio (number < 0) number.natAbs 1

def ofNat (number : Nat) : Binary format :=
  ofRatio false number 1

/-- The order in which negative numbers come before positive ones, zeros have signs, and what is
not a number lies outside the infinities. -/
def place (x : Binary format) : Int :=
  if x.negative then -1 - (x.rank : Int) else x.rank

def compareTotal (x y : Binary format) : Ordering :=
  compare x.place y.place

def below (x y : Binary format) : Bool :=
  !x.isNaN && !y.isNaN && x.units < y.units

def liesWithin (x : Binary format) (low high : Int) : Bool :=
  !x.isNaN && low * format.one ≤ x.units && x.units ≤ high * format.one

def whole? (x : Binary format) : Option Int :=
  if x.isFinite && x.magnitude % format.one == 0 then
    some (x.units / format.one)
  else none

def convert (target : Format) (x : Binary format) : Binary target :=
  if x.isNaN then notANumber x.negative
  else if x.isInfinite then infinity x.negative
  else ofRatio x.negative x.magnitude format.one

def add (x y : Binary format) : Binary format :=
  if x.isNaN then x
  else if y.isNaN then y
  else if x.isInfinite then
    if y.isInfinite && x.negative != y.negative then notANumber true else x
  else if y.isInfinite then y
  else
    let sum := x.units + y.units
    let negative := if sum = 0 then x.negative && y.negative else sum < 0
    ⟨negative, format.nearestRank sum.natAbs 1⟩

instance : Add (Binary format) := ⟨add⟩

def scaleUp (x y : Binary format) : Binary format :=
  ⟨x.negative != y.negative, format.nearestRank (x.magnitude * y.magnitude) format.one⟩

def scaleDown (x y : Binary format) : Binary format :=
  ⟨x.negative != y.negative, format.nearestRank (x.magnitude * format.one) y.magnitude⟩

def signBit : Nat := Nat.pow 2 63

def toFloat (x : Double) : Float :=
  Float.ofBits (UInt64.ofNat ((if x.negative then signBit else 0) + x.rank))

def ofFloat (x : Float) : Double :=
  let bits := x.toBits.toNat
  ⟨signBit ≤ bits, bits % signBit⟩

end Binary

end ContentFinder.Number
