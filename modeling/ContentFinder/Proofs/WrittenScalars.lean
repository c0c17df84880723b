import Mathlib.Data.List.TakeWhile
import ContentFinder.Proofs.Refusals
import ContentFinder.Proofs.Rounding

/-! Scalars written as texts. An integer or a boolean has the same value on a field of a known kind as
its text, or is refused with the same message, since the readers of every kind take back what was
written. Comparisons on such fields therefore do not tell the two apart, save that a pattern must be
a text. Where the kind is not known a text stays a text. -/

namespace ContentFinder

open Number Outcome

/-! Reading the texts of words. -/

namespace Text

theorem trim_eq_self {text : List Char} (visible : ∀ c ∈ text, isBlank c = false) :
    trim text = text := by
  have kept : ∀ chars : List Char, (∀ c ∈ chars, isBlank c = false) →
      chars.dropWhile isBlank = chars := by
    intro chars all
    cases chars with
    | nil => rfl
    | cons c rest =>
      exact List.dropWhile_cons_of_neg (by simp [all c List.mem_cons_self])
  rw [trim, trimRight, trimLeft, kept text visible, kept text.reverse (by simpa using visible),
    List.reverse_reverse]

theorem isBlank_of_isDigit {c : Char} (digit : c.isDigit = true) : isBlank c = false := by
  simp only [Char.isDigit, Bool.and_eq_true, decide_eq_true_eq] at digit
  have low : 48 ≤ c.toNat := digit.1
  have high : c.toNat ≤ 57 := digit.2
  simp [isBlank, inRanges, blankRanges]
  omega

end Text

namespace Number

theorem isDigit_of_mem_repr {number : Nat} {c : Char} (member : c ∈ number.repr.toList) :
    c.isDigit = true := by
  rw [Nat.toList_repr] at member
  exact Nat.isDigit_of_mem_toDigits (by decide) (by decide) member

theorem toList_wordText (word : Int64) : (wordText word).toList =
    if word.toInt < 0 then '-' :: word.toInt.natAbs.repr.toList
    else word.toInt.natAbs.repr.toList := by
  rw [wordText, Int.toString_eq_repr, Int.repr_eq_if]
  split
  · rename_i notBelow
    have size : word.toInt.toNat = word.toInt.natAbs := by omega
    rw [if_neg (by omega), size]
  · rename_i below
    have size : (-word.toInt).toNat = word.toInt.natAbs := by omega
    rw [if_pos (by omega), size]
    simp

theorem trim_wordText (word : Int64) :
    Text.trim (wordText word).toList = (wordText word).toList := by
  apply Text.trim_eq_self
  intro c member
  rw [toList_wordText] at member
  split at member
  · rcases List.mem_cons.1 member with rfl | digit
    · decide
    · exact Text.isBlank_of_isDigit (isDigit_of_mem_repr digit)
  · exact Text.isBlank_of_isDigit (isDigit_of_mem_repr member)

theorem toLower_of_isDigit {c : Char} (digit : c.isDigit = true) : c.toLower = c := by
  simp only [Char.isDigit, Bool.and_eq_true, decide_eq_true_eq] at digit
  have notUpper : ¬(c.val ≥ 'A'.val ∧ c.val ≤ 'Z'.val) := fun upper =>
    absurd (UInt32.le_trans upper.1 digit.2) (by decide)
  exact dif_neg notUpper

theorem ofDigits_repr (number : Nat) : ofDigits number.repr.toList = number := by
  have read := readNat_repr number
  unfold readNat at read
  split_ifs at read
  exact Option.some.inj read

theorem readDecimal_repr (number : Nat) : readDecimal number.repr.toList = some ⟨number, 0⟩ := by
  have digits : ∀ c ∈ number.repr.toList, c.isDigit = true := fun _ => isDigit_of_mem_repr
  have taken : number.repr.toList.takeWhile Char.isDigit = number.repr.toList :=
    List.takeWhile_eq_self_iff.2 digits
  have rest : number.repr.toList.dropWhile Char.isDigit = [] := List.dropWhile_eq_nil_iff.2 digits
  have notEmpty : number.repr.toList.isEmpty = false := by
    rw [Nat.toList_repr]
    exact List.isEmpty_eq_false_iff.2 Nat.toDigits_ne_nil
  simp only [readDecimal, taken, rest, notEmpty, readExponent, List.append_nil, ofDigits_repr]
  rfl

theorem round_whole (negative : Bool) {number : Nat} (fits : number ≤ 9223372036854775808) :
    (⟨number, 0⟩ : Decimal).round .double negative = .ofRatio negative number 1 := by
  have short : (Nat.toDigits 10 number).length ≤ 19 :=
    (Nat.length_toDigits_le_iff (by decide) (by decide)).2 (by omega)
  unfold Decimal.round
  dsimp only
  by_cases zero : number = 0
  · subst zero
    have rank : Format.double.nearestRank (0 * Format.double.one) 1 = 0 :=
      Nat.le_zero.1 (Format.nearestRank_le (by decide) (by rw [Nat.zero_mul]; exact Nat.zero_le _))
    rw [if_pos rfl, Binary.ofRatio, rank]
  · rw [if_neg zero, if_neg (by omega), if_neg (by omega), if_neg (by decide)]
    simp

theorem readMagnitude_repr (negative : Bool) {number : Nat} (fits : number ≤ 9223372036854775808) :
    readMagnitude .double negative number.repr.toList = some (.ofRatio negative number 1) := by
  have lower : number.repr.toList.map Char.toLower = number.repr.toList :=
    (List.map_congr_left fun c member => toLower_of_isDigit (isDigit_of_mem_repr member)).trans
      (List.map_id _)
  have unnamed : ∀ name : List Char, (∃ c ∈ name, c.isDigit = false) →
      number.repr.toList ≠ name := by
    rintro name ⟨c, member, letter⟩ rfl
    rw [isDigit_of_mem_repr member] at letter
    cases letter
  unfold readMagnitude
  dsimp only
  rw [lower, if_neg, if_neg (unnamed _ ⟨'n', by decide, by decide⟩), readDecimal_repr,
    Option.map_some, round_whole negative fits]
  rintro (name | name)
  · exact unnamed _ ⟨'i', by decide, by decide⟩ name
  · exact unnamed _ ⟨'i', by decide, by decide⟩ name

/-- The text of a word is read as the double nearest to it. -/
theorem readBinary_wordText (word : Int64) :
    readBinary .double (wordText word).toList = some (.ofInt word.toInt) := by
  have low := word.le_toInt
  have high := word.toInt_lt
  have fits : word.toInt.natAbs ≤ 9223372036854775808 := by omega
  rw [toList_wordText, Binary.ofInt]
  split
  · rename_i negative
    rw [readBinary, readMagnitude_repr true fits, decide_eq_true negative]
  · rename_i notNegative
    have unsigned : readBinary .double word.toInt.natAbs.repr.toList =
        readMagnitude .double false word.toInt.natAbs.repr.toList := by
      unfold readBinary
      split
      · rename_i rest first
        exact absurd (isDigit_of_mem_repr (first ▸ List.mem_cons_self)) (by decide)
      · rename_i rest first
        exact absurd (isDigit_of_mem_repr (first ▸ List.mem_cons_self)) (by decide)
      · rfl
    rw [unsigned, readMagnitude_repr false fits, decide_eq_false notNegative]

end Number

/-! Scalars and operands. -/

theorem Failure.message_congr {fault other : ArgumentFault} (told : fault.text = other.text) :
    message (.invalidArgument fault) = message (.invalidArgument other) :=
  congrArg (fun text => "[" ++ "CSE-001" ++ "] " ++ ("Invalid argument: " ++ text)) told

theorem ArgumentFault.text_unfitValue (value : Scalar) (kind : FieldKind) :
    text (.unfitValue value kind) =
      "value '" ++ value.text ++ "' cannot be used on a " ++ kind.title ++ " field" := rfl

namespace Scalar

def written : Scalar → Scalar
  | .boolean value => .string (boolText value)
  | .integer value => .string (wordText value)
  | scalar => scalar

variable {scalar : Scalar} {kind : FieldKind}

theorem text_written (scalar : Scalar) : scalar.written.text = scalar.text := by
  cases scalar <;> rfl

theorem readBoolean_wordText (word : Int64) : readBoolean (wordText word).toList =
    if word = 0 then some false else if word = 1 then some true else none := by
  have spelled : ∀ other : Int64, (wordText word).toList = (wordText other).toList ↔ word = other := by
    intro other
    constructor
    · exact fun same => wordText_injective (String.toList_inj.1 same)
    · rintro rfl
      rfl
  have noWord : ∀ text : List Char, readWord text = none → (wordText word).toList ≠ text := by
    rintro text unread rfl
    cases unread.symm.trans (readWord_wordText word)
  have one : (wordText word).toList = ['1'] ↔ word = 1 := spelled 1
  have zero : (wordText word).toList = ['0'] ↔ word = 0 := spelled 0
  have notTrue := noWord "true".toList (by decide)
  have notFalse := noWord "false".toList (by decide)
  simp only [readBoolean, one, zero, notTrue, notFalse, or_false]
  by_cases isZero : word = 0
  · subst isZero
    rfl
  · simp [isZero]

theorem coerce?_written (scalar : Scalar) (kind : FieldKind) :
    scalar.written.coerce? kind = scalar.coerce? kind := by
  cases scalar with
  | boolean value => cases value <;> cases kind <;> rfl
  | integer word =>
    cases kind with
    | string | text | geoLocation => rfl
    | integer => simp [written, coerce?, trim_wordText, readWord_wordText]
    | float => simp [written, coerce?, trim_wordText, readBinary_wordText]
    | boolean =>
      simp only [written, coerce?, trim_wordText, readBoolean_wordText]
      split_ifs <;> rfl
    | date => simp [written, coerce?, trim_wordText, readTimestamp, readWord_wordText]
  | float value => rfl
  | string value => rfl

theorem coerce_written (scalar : Scalar) (kind : FieldKind) :
    (scalar.written.coerce (some kind)).mapError Failure.message =
      (scalar.coerce (some kind)).mapError Failure.message := by
  simp only [coerce, coerce?_written]
  cases scalar.coerce? kind with
  | some value => rfl
  | none =>
    have told : ArgumentFault.text (.unfitValue scalar.written kind) =
        ArgumentFault.text (.unfitValue scalar kind) := by
      rw [ArgumentFault.text_unfitValue, ArgumentFault.text_unfitValue, text_written]
    exact congrArg Except.error (Failure.message_congr told)

end Scalar

namespace Operand

def written : Operand → Operand
  | .single value => .single value.written
  | .list values => .list (values.map Scalar.written)

theorem scalars_written (operand : Operand) :
    operand.written.scalars = operand.scalars.map Scalar.written := by
  cases operand <;> rfl

end Operand

/-! Comparisons. -/

namespace IndexQuery

variable {field : String} {kind : FieldKind} {operator : Operator} {operand : Operand}

theorem compared_written {build : IndexValue → IndexQuery} :
    (do return build (← (← operand.written.one field).coerce (some kind))).mapError
        Failure.message =
      (do return build (← (← operand.one field).coerce (some kind))).mapError Failure.message := by
  cases operand with
  | list values => rfl
  | single scalar =>
    change (do return build (← scalar.written.coerce (some kind))).mapError Failure.message =
      (do return build (← scalar.coerce (some kind))).mapError Failure.message
    exact mapError_bind_congr (scalar.coerce_written kind) fun value _ => rfl

theorem comparing_written (noPattern : operator ≠ .like) :
    (comparing field (some kind) operator operand.written).mapError Failure.message =
      (comparing field (some kind) operator operand).mapError Failure.message := by
  cases operator with
  | eq | contains | gt | gte | lt | lte => exact compared_written
  | isIn =>
    unfold comparing
    rw [Operand.scalars_written, List.mapM_map]
    refine mapError_bind_congr (mapError_mapM_congr fun scalar _ => ?_) fun values _ => rfl
    exact scalar.coerce_written kind
  | between =>
    rcases operand with scalar | values
    · rfl
    · rcases values with _ | ⟨low, _ | ⟨high, _ | ⟨third, rest⟩⟩⟩
      · rfl
      · rfl
      · have pair : ∀ low high, comparing field (some kind) .between (.list [low, high]) = do
            let least ← low.coerce (some kind)
            let most ← high.coerce (some kind)
            return range field ⟨some least, some most, true, true⟩ := fun _ _ => rfl
        rw [Operand.written, List.map_cons, List.map_cons, List.map_nil, pair, pair]
        refine mapError_bind_congr (low.coerce_written kind) fun least _ => ?_
        exact mapError_bind_congr (high.coerce_written kind) fun most _ => rfl
      · rfl
  | like => exact absurd rfl noPattern

end IndexQuery

/-! Leaves. -/

theorem LanguageFilter.mapError_expand_congr {filter : LanguageFilter} {multilingual : Bool}
    {build other : Projection → Except Failure IndexQuery}
    (each : ∀ projection, (build projection).mapError Failure.message =
      (other projection).mapError Failure.message) :
    (filter.expand multilingual build).mapError Failure.message =
      (filter.expand multilingual other).mapError Failure.message := by
  unfold expand
  split
  · exact each .main
  · split
    · exact each .any
    · refine mapError_bind_congr (mapError_mapM_congr fun language _ => each (.code language)) ?_
      intro branches _
      split
      · exact mapError_bind_congr (each .main) fun fallback _ => rfl
      · rfl

theorem Specification.hasShape_written {spec : Specification} {operand : Operand} :
    spec.HasShape operand.written ↔ spec.HasShape operand := by
  cases operand <;> simp [Operand.written, HasShape]

namespace FieldLeaf

theorem accepted_written (leaf : FieldLeaf) :
    SpecificationTable.field.validate leaf.identifier leaf.comparison.operator
      leaf.comparison.operand.written = .ok () := by
  obtain ⟨spec, found, fits⟩ := SpecificationTable.validate_eq_ok.1 leaf.comparison.accepted
  have listed : ∀ spec ∈ fieldRows, spec.types = none := by decide
  have anyType := listed spec (List.mem_of_find?_eq_some found)
  exact SpecificationTable.validate_eq_ok.2 ⟨spec, found,
    Specification.hasShape_written.2 fits.shape, by simp [anyType]⟩

def written (leaf : FieldLeaf) : FieldLeaf :=
  { leaf with
    comparison := ⟨leaf.comparison.operator, leaf.comparison.operand.written,
      leaf.accepted_written⟩ }

theorem lower_written {schema : Schema} {filter : LanguageFilter} {leaf : FieldLeaf}
    (noPattern : leaf.comparison.operator ≠ .like)
    (known : ∀ contentType base,
      schema.HasBase leaf.overrides contentType leaf.identifier base →
        (schema.kind? contentType leaf.identifier).isSome = true) :
    (leaf.written.lower schema filter).mapError Failure.message =
      (leaf.lower schema filter).mapError Failure.message := by
  apply mapError_bind_congr rfl
  intro types found
  refine mapError_bind_congr (mapError_mapM_congr fun contentType listed => ?_) fun queries _ => rfl
  obtain ⟨base, hasBase⟩ := (Schema.mem_typesFor found).1 listed
  obtain ⟨kind, isKind⟩ := Option.isSome_iff_exists.1 (known contentType base hasBase)
  unfold lowerIn
  apply LanguageFilter.mapError_expand_congr
  intro projection
  apply mapError_bind_congr rfl
  intro name _
  have compared : (IndexQuery.comparing name (some kind) leaf.comparison.operator
      leaf.comparison.operand.written).mapError Failure.message = _ :=
    IndexQuery.comparing_written noPattern
  rw [← isKind] at compared
  exact compared

end FieldLeaf

/-- On a field of a known kind a scalar has the value of its text, or is refused with the same
message. A comparison there becomes the same query for both or is refused with the same message,
unless it asks for a pattern. So does a leaf on a field that has a kind in every content type in
which it is compared. -/
theorem Scalar.alike_written :
    (∀ (scalar : Scalar) (kind : FieldKind),
      (scalar.written.coerce (some kind)).mapError Failure.message =
        (scalar.coerce (some kind)).mapError Failure.message) ∧
    (∀ (field : String) (kind : FieldKind) (operator : Operator) (operand : Operand),
      operator ≠ .like →
      (IndexQuery.comparing field (some kind) operator operand.written).mapError Failure.message =
        (IndexQuery.comparing field (some kind) operator operand).mapError Failure.message) ∧
    ∀ (schema : Schema) (filter : LanguageFilter) (leaf : FieldLeaf),
      leaf.comparison.operator ≠ .like →
      (∀ contentType base, schema.HasBase leaf.overrides contentType leaf.identifier base →
        (schema.kind? contentType leaf.identifier).isSome = true) →
      ((Criterion.field leaf.written).lower schema filter).mapError Failure.message =
        ((Criterion.field leaf).lower schema filter).mapError Failure.message := by
  refine ⟨coerce_written, ?_, ?_⟩
  · intro field kind operator operand noPattern
    exact IndexQuery.comparing_written noPattern
  · intro schema filter leaf noPattern known
    exact FieldLeaf.lower_written noPattern known

namespace Sample

def sixLeaf : FieldLeaf :=
  ⟨"code", letterLeaf.named, ⟨.eq, .single (.integer 6), rfl⟩, .empty⟩

def numberLikeLeaf : FieldLeaf :=
  ⟨"title", titleLeaf.named, ⟨.like, .single (.integer 54), rfl⟩, .empty⟩

end Sample

theorem Scalar.six_written :
    (IndexQuery.comparing "price" (some .float) .between
        (.list [.string "-7", .string "9223372036854775807"])).mapError Failure.message =
      (IndexQuery.comparing "price" (some .float) .between
        (.list [.integer (-7), .integer 9223372036854775807])).mapError Failure.message ∧
    ∃ query, ((Criterion.field Sample.sixLeaf.written).lower Sample.schema
        Sample.germanOrMain).mapError Failure.message = .ok query ∧
      query.isMatch Sample.document = true := by
  obtain ⟨-, comparisons, leaves⟩ := alike_written
  refine ⟨comparisons "price" .float .between
    (.list [.integer (-7), .integer 9223372036854775807]) nofun, ?_⟩
  obtain ⟨query, lowered, matched⟩ := IndexQuery.isMet_iff.1
    (by decide +kernel : IndexQuery.isMet Sample.document
      ((Criterion.field Sample.sixLeaf).lower Sample.schema Sample.germanOrMain) = true)
  refine ⟨query, ?_, matched⟩
  rw [leaves Sample.schema Sample.germanOrMain Sample.sixLeaf nofun, lowered]
  · rfl
  · intro contentType base hasBase
    obtain ⟨rfl, -⟩ := Sample.hasBase_code hasBase
    rfl

/-- A number is refused as a pattern and its text is not, and on a field without a kind only the
number itself is found. -/
theorem Scalar.not_alike_written :
    Scalar.written (.integer 54) = .string "54" ∧
    (Criterion.field Sample.numberLikeLeaf).lower Sample.schema ⟨[], true⟩ =
      .error (.invalidArgument (.patternNotText "article_title_value_s_all" (.integer 54))) ∧
    (∃ query, (Criterion.field Sample.numberLikeLeaf.written).lower Sample.schema ⟨[], true⟩ =
      .ok query) ∧
    (∃ query, IndexQuery.comparing "priority" none .eq (.single (.integer 54)) = .ok query ∧
      query.isMatch ((Document.new "1").add "priority" (.integer 54)) = true) ∧
    ∃ query, IndexQuery.comparing "priority" none .eq (.single (.string "54")) = .ok query ∧
      query.isMatch ((Document.new "1").add "priority" (.integer 54)) = false := by
  exact ⟨rfl, rfl, ⟨_, rfl⟩, ⟨_, rfl, by decide⟩, ⟨_, rfl, by decide⟩⟩

end ContentFinder
