/-! Whole numbers written in decimal digits. -/

namespace ContentFinder.Number

def digitValue (c : Char) : Nat :=
  c.toNat - '0'.toNat

def ofDigits (digits : List Char) : Nat :=
  digits.foldl (fun number c => number * 10 + digitValue c) 0

def readNat (text : List Char) : Option Nat :=
  if !text.isEmpty && text.all Char.isDigit then some (ofDigits text) else none

def readInt : List Char → Option Int
  | '-' :: digits => (readNat digits).map fun number => -(number : Int)
  | '+' :: digits => (readNat digits).map Int.ofNat
  | digits => (readNat digits).map Int.ofNat

def wordBound : Int := 9223372036854775808

def countBound : Nat := 18446744073709551616

def word? (number : Int) : Option Int64 :=
  if -wordBound ≤ number ∧ number < wordBound then some (Int64.ofInt number) else none

def readWord (text : List Char) : Option Int64 :=
  (readInt text).bind word?

def wordText (word : Int64) : String :=
  toString word.toInt

/-! Reading what was written. -/

theorem readNat_repr (number : Nat) : readNat number.repr.toList = some number := by
  have digits : number.repr.toList.all Char.isDigit = true := by
    rw [Nat.toList_repr, List.all_eq_true]
    intro c member
    exact Nat.isDigit_of_mem_toDigits (by decide) (by decide) member
  have notEmpty : number.repr.toList.isEmpty = false := by
    rw [Nat.toList_repr]
    exact List.isEmpty_eq_false_iff.2 Nat.toDigits_ne_nil
  have value : ofDigits number.repr.toList = number := by
    have spelled := Nat.ofDigitChars_ten_toDigits (n := number)
    rw [Nat.ofDigitChars_eq_foldl] at spelled
    rw [Nat.toList_repr, ofDigits]
    simpa only [digitValue, Nat.mul_comm] using spelled
  rw [readNat, notEmpty, digits, value]
  rfl

theorem readInt_repr (number : Nat) : readInt number.repr.toList = some (number : Int) := by
  have read := readNat_repr number
  unfold readInt
  split
  · rename_i rest digits
    rw [digits] at read
    simp [readNat] at read
  · rename_i rest digits
    rw [digits] at read
    simp [readNat] at read
  · rw [read]
    rfl

theorem readInt_toString (number : Int) : readInt (toString number).toList = some number := by
  rw [Int.toString_eq_repr, Int.repr_eq_if]
  split
  · rename_i notBelow
    rw [readInt_repr, Int.toNat_of_nonneg notBelow]
  · rename_i below
    have minus : ("-" ++ (-number).toNat.repr).toList = '-' :: (-number).toNat.repr.toList := by
      simp
    rw [minus, readInt, readNat_repr]
    change some (-((-number).toNat : Int)) = some number
    rw [Int.toNat_of_nonneg (by omega), Int.neg_neg]

theorem readWord_wordText (word : Int64) : readWord (wordText word).toList = some word := by
  have notBelow := word.le_toInt
  have below := word.toInt_lt
  have inRange : -wordBound ≤ word.toInt ∧ word.toInt < wordBound := by
    unfold wordBound
    omega
  rw [readWord, wordText, readInt_toString, Option.bind_some, word?, if_pos inRange,
    Int64.ofInt_toInt]

theorem wordText_injective {word other : Int64} (same : wordText word = wordText other) :
    word = other := by
  have read := readWord_wordText word
  rw [same, readWord_wordText] at read
  exact (Option.some.inj read).symm

end ContentFinder.Number
