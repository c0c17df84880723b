import ContentFinder.Proofs.AskedNumbers
import ContentFinder.Proofs.Refusals

/-! Numbers on integer fields. A number has a value on such a field exactly when it is whole, and the
value is that number as long as it fits a word. A larger number is brought to the last word instead
of being refused. As long as no such number is asked for, comparisons find just the documents with a
stored number that really is what the operator asks for. -/

namespace ContentFinder

open Number Outcome

namespace Number

namespace Binary

variable {format : Format} {x : Binary format}

theorem exactValue?_of_finite (finite : x.isFinite = true) :
    x.exactValue? = some (.ofRat (x.units / format.one)) := by
  have below : x.rank < format.infinityRank := by simpa [isFinite] using finite
  rw [exactValue?, if_neg (by simp [isNaN, below.le]), if_neg (by simp [isInfinite, below.ne])]

theorem exactValue?_ne_ofRat (notFinite : x.isFinite = false) (number : ℚ) :
    x.exactValue? ≠ some (.ofRat number) := by
  have reached : format.infinityRank ≤ x.rank := by simpa [isFinite] using notFinite
  unfold exactValue?
  split_ifs with noNumber infinite negative
  · nofun
  · exact fun same => WithBot.bot_ne_coe (Option.some.inj same)
  · exact fun same => WithTop.top_ne_coe (WithBot.coe_inj.1 (Option.some.inj same))
  · simp only [isNaN, isInfinite, decide_eq_true_eq, beq_iff_eq] at noNumber infinite
    omega

theorem whole?_eq_some_iff {number : Int} :
    x.whole? = some number ↔ x.exactValue? = some (.ofRat number) := by
  unfold whole?
  cases finite : x.isFinite with
  | false => exact iff_of_false (by simp) (exactValue?_ne_ofRat finite _)
  | true =>
    have positive : (format.one : Int) ≠ 0 := by exact_mod_cast format.one_pos.ne'
    have scaled : (format.one : ℚ) ≠ 0 := by exact_mod_cast format.one_pos.ne'
    have divides : x.magnitude % format.one = 0 ↔ (format.one : Int) ∣ x.units := by
      rw [← Int.dvd_natAbs, natAbs_units, Int.natCast_dvd_natCast, Nat.dvd_iff_mod_eq_zero]
      rfl
    rw [exactValue?_of_finite finite, Option.some.injEq, Exact.ofRat_inj, div_eq_iff scaled]
    simp only [Bool.true_and, beq_iff_eq, divides, Option.ite_none_right_eq_some, Option.some.injEq]
    norm_cast
    constructor
    · rintro ⟨whole, rfl⟩
      exact (Int.ediv_mul_cancel whole).symm
    · rintro product
      rw [product]
      exact ⟨Int.dvd_mul_left _ _, Int.mul_ediv_cancel _ positive⟩

end Binary

theorem toInt_ofIntClamp_iff {number : Int} :
    (Int64.ofIntClamp number).toInt = number ↔ -wordBound ≤ number ∧ number < wordBound := by
  unfold wordBound
  constructor
  · intro same
    have low := (Int64.ofIntClamp number).le_toInt
    have high := (Int64.ofIntClamp number).toInt_lt
    omega
  · intro within
    apply Int64.toInt_ofIntClamp
    · rw [Int64.toInt_minValue]
      omega
    · rw [Int64.toInt_maxValue]
      omega

end Number

namespace Scalar

variable {scalar : Scalar} {stored : IndexValue}

/-- The scalar is no text, and if it is a whole number, then one that fits a word. -/
structure AsksWord (scalar : Scalar) : Prop where
  noText : scalar.type ≠ .string
  fits : ∀ number : Int, scalar.exactValue? = some (.ofRat number) →
    -wordBound ≤ number ∧ number < wordBound

theorem AsksWord.of_exactValue? {number : Int} (noText : scalar.type ≠ .string)
    (valued : scalar.exactValue? = some (.ofRat number))
    (within : -wordBound ≤ number ∧ number < wordBound) : scalar.AsksWord := by
  refine ⟨noText, fun other again => ?_⟩
  rw [valued, Option.some.injEq, Exact.ofRat_inj, Int.cast_inj] at again
  exact again ▸ within

theorem coerce_integer_iff (noText : scalar.type ≠ .string) :
    scalar.coerce (some .integer) = .ok stored ↔ ∃ number : Int,
      scalar.exactValue? = some (.ofRat number) ∧ stored = .integer (Int64.ofIntClamp number) := by
  rw [coerce_eq_ok]
  cases scalar with
  | boolean value => simp [coerce?, exactValue?, plain, IndexValue.exactValue?]
  | integer value =>
    simp [coerce?, exactValue?, plain, IndexValue.exactValue?, Exact.ofRat_inj, eq_comm]
  | float value =>
    simp only [coerce?, wholeWord?, Option.map_map, Option.map_eq_some_iff,
      Binary.whole?_eq_some_iff, Function.comp_apply]
    exact exists_congr fun number => and_congr_right fun _ => eq_comm
  | string value => exact absurd rfl noText

theorem exactValue?_coerce_integer_iff (noText : scalar.type ≠ .string)
    (coerced : scalar.coerce (some .integer) = .ok stored) :
    stored.exactValue? = scalar.exactValue? ↔ scalar.AsksWord := by
  obtain ⟨number, valued, rfl⟩ := (coerce_integer_iff noText).1 coerced
  rw [IndexValue.exactValue?_of_integer rfl, valued, Option.some.injEq, Exact.ofRat_inj,
    Int.cast_inj, toInt_ofIntClamp_iff]
  constructor
  · exact fun within => .of_exactValue? noText valued within
  · exact fun asks => asks.fits number valued

theorem AsksWord.comparesAs {value : IndexValue} {number : Exact} (asks : scalar.AsksWord)
    (coerced : scalar.coerce (some .integer) = .ok stored) (whole : value.integer?.isSome = true)
    (valued : value.exactValue? = some number) : scalar.ComparesAs (some .integer) value number := by
  have exact := (exactValue?_coerce_integer_iff asks.noText coerced).2 asks
  obtain ⟨asked, askedValued, rfl⟩ := (coerce_integer_iff asks.noText).1 coerced
  rw [askedValued] at exact
  exact ⟨_, _, coerced, askedValued, (IndexValue.compare?_eq_iff valued exact).2
    ((IndexValue.not_misjudged_iff valued exact).2 (.inl ⟨whole, rfl⟩))⟩

end Scalar

section Match

variable {doc : Document} {operator : Operator} {operand : Operand} {query : IndexQuery}

def Document.HoldsRelated (doc : Document) (field : String) (operator : Operator)
    (operand : Operand) : Prop :=
  ∃ stored ∈ doc.get field, ∃ number, stored.exactValue? = some number ∧
    operator.Relates operand number

theorem IndexValue.string?_of_integer {value : IndexValue} (whole : value.integer?.isSome = true) :
    value.string? = none := by
  cases value <;> simp_all [integer?, string?]

theorem IndexQuery.isMatch_integers_iff {field : String}
    (lowered : comparing field (some .integer) operator operand = .ok query)
    (asks : ∀ scalar ∈ operand.scalars, scalar.AsksWord)
    (whole : ∀ stored ∈ doc.get field, stored.integer?.isSome = true) :
    query.isMatch doc = true ↔ doc.HoldsRelated field operator operand := by
  rw [isMatch_comparing lowered, List.any_eq_true]
  refine exists_congr fun stored => and_congr_right fun member => ?_
  obtain ⟨word, isWord⟩ := Option.isSome_iff_exists.1 (whole stored member)
  have valued := IndexValue.exactValue?_of_integer isWord
  have compares : ∀ scalar ∈ operand.scalars,
      scalar.ComparesAs (some .integer) stored (.ofRat word.toInt) := by
    intro scalar given
    obtain ⟨bound, read⟩ := exists_coerce?_of_comparing lowered scalar given
    exact (asks scalar given).comparesAs (Scalar.coerce_eq_ok.2 read) (whole stored member) valued
  rw [Operator.accepts_iff_relates (IndexValue.string?_of_integer (whole stored member)) compares,
    valued]
  simp

/-- A leaf with an index query can be compared under every name, in the content types that have its
field. -/
theorem FieldLeaf.exists_comparing_of_lower {schema : Schema} {filter : LanguageFilter}
    {leaf : FieldLeaf} {contentType base : String} (lowered : leaf.lower schema filter = .ok query)
    (hasBase : schema.HasBase leaf.overrides contentType leaf.identifier base) (name : String) :
    ∃ part, IndexQuery.comparing name (schema.kind? contentType leaf.identifier)
      leaf.comparison.operator leaf.comparison.operand = .ok part := by
  obtain ⟨inType, expanded⟩ := (Schema.lower_types_eq_ok lowered).2 contentType base hasBase
  unfold lowerIn at expanded
  have someProjection := @LanguageFilter.projections_ne_nil
    (schema.isMultilingual contentType leaf.identifier) filter
  obtain ⟨projection, asked⟩ := List.exists_mem_of_ne_nil _ someProjection
  obtain ⟨part, built⟩ := LanguageFilter.exists_expand.1 ⟨inType, expanded⟩ projection asked
  obtain ⟨resolved, -, compared⟩ := bind_eq_ok.1 built
  exact IndexQuery.exists_comparing compared name

theorem FieldLeaf.isMatch_integers_iff {schema : Schema} {filter : LanguageFilter}
    {leaf : FieldLeaf} (lowered : leaf.lower schema filter = .ok query)
    (integers : ∀ contentType base,
      schema.HasBase leaf.overrides contentType leaf.identifier base →
        schema.kind? contentType leaf.identifier = some .integer)
    (asks : ∀ scalar ∈ leaf.comparison.operand.scalars, scalar.AsksWord)
    (whole : ∀ contentType base name,
      schema.HasBase leaf.overrides contentType leaf.identifier base →
      filter.LooksUp doc (schema.isMultilingual contentType leaf.identifier) base name →
        ∀ stored ∈ doc.get name, stored.integer?.isSome = true) :
    query.isMatch doc = true ↔ schema.SomeName leaf.overrides filter doc leaf.identifier
      fun _ name => doc.HoldsRelated name leaf.comparison.operator leaf.comparison.operand := by
  rw [isMatch_lower_iff lowered]
  refine exists_congr fun contentType => exists_congr fun base => exists_congr fun name =>
    and_congr_right fun hasBase => and_congr_right fun looksUp => ?_
  obtain ⟨part, compared⟩ := exists_comparing_of_lower lowered hasBase name
  rw [integers contentType base hasBase] at compared
  simp only [integers contentType base hasBase, compared, Except.ok.injEq, exists_eq_left',
    IndexQuery.isMatch_integers_iff compared asks (whole contentType base name hasBase looksUp)]

end Match

/-- A scalar that is no text has a value on an integer field when it is a whole number, and the
value is that number when it fits a word. Where only such numbers are asked for, a comparison with
an integer field finds the documents with a stored number that stands to them as the operator says,
and so does a leaf on a field that all content types have as an integer. -/
theorem Criterion.integer_fields_exact (schema : Schema) (filter : LanguageFilter)
    (doc : Document) :
    (∀ (scalar : Scalar) (stored : IndexValue), scalar.type ≠ .string →
      (scalar.coerce (some .integer) = .ok stored ↔ ∃ number : Int,
        scalar.exactValue? = some (.ofRat number) ∧
          stored = .integer (Int64.ofIntClamp number)) ∧
      (scalar.coerce (some .integer) = .ok stored →
        (stored.exactValue? = scalar.exactValue? ↔ scalar.AsksWord))) ∧
    (∀ (field : String) (operator : Operator) (operand : Operand) (query : IndexQuery),
      IndexQuery.comparing field (some .integer) operator operand = .ok query →
      (∀ scalar ∈ operand.scalars, scalar.AsksWord) →
      (∀ stored ∈ doc.get field, stored.integer?.isSome = true) →
      (query.isMatch doc = true ↔ doc.HoldsRelated field operator operand)) ∧
    ∀ (leaf : FieldLeaf) (query : IndexQuery),
      (Criterion.field leaf).lower schema filter = .ok query →
      (∀ contentType base, schema.HasBase leaf.overrides contentType leaf.identifier base →
        schema.kind? contentType leaf.identifier = some .integer) →
      (∀ scalar ∈ leaf.comparison.operand.scalars, scalar.AsksWord) →
      (∀ contentType base name,
        schema.HasBase leaf.overrides contentType leaf.identifier base →
        filter.LooksUp doc (schema.isMultilingual contentType leaf.identifier) base name →
          ∀ stored ∈ doc.get name, stored.integer?.isSome = true) →
      (query.isMatch doc = true ↔ schema.SomeName leaf.overrides filter doc leaf.identifier
        fun _ name => doc.HoldsRelated name leaf.comparison.operator leaf.comparison.operand) := by
  refine ⟨?_, ?_, ?_⟩
  · intro scalar stored noText
    exact ⟨Scalar.coerce_integer_iff noText, Scalar.exactValue?_coerce_integer_iff noText⟩
  · intro field operator operand query lowered asks whole
    exact IndexQuery.isMatch_integers_iff lowered asks whole
  · intro leaf query lowered integers asks whole
    exact FieldLeaf.isMatch_integers_iff lowered integers asks whole

namespace Sample

def fromSixLeaf : FieldLeaf :=
  ⟨"code", letterLeaf.named, ⟨.gte, .single (.float (.ofInt 6)), rfl⟩, .empty⟩

def hugeLeaf : FieldLeaf :=
  ⟨"code", letterLeaf.named, ⟨.eq, .single (.float (.ofInt 9223372036854775808)), rfl⟩, .empty⟩

def lastCode : Document :=
  (Document.new "1").add "article_code_value_i" (.integer Int64.maxValue)

theorem exactValue?_six :
    Scalar.exactValue? (.float (.ofInt 6)) = some (.ofRat (6 : Int)) :=
  IndexValue.exactValue?_float (Binary.isNaN_ofInt _ _) (by decide)
    (IndexValue.units_double (by decide))

theorem exactValue?_first : Scalar.exactValue? (.float (.ofInt (-9223372036854775808))) =
    some (.ofRat (-9223372036854775808 : Int)) :=
  IndexValue.exactValue?_float (Binary.isNaN_ofInt _ _) (by decide) (by decide +kernel)

theorem exactValue?_huge : Scalar.exactValue? (.float (.ofInt 9223372036854775808)) =
    some (.ofRat (9223372036854775808 : Int)) :=
  IndexValue.exactValue?_float (Binary.isNaN_ofInt _ _) (by decide) (by decide +kernel)

end Sample

theorem Criterion.codes_from_six :
    Scalar.coerce (some .integer) (.float (.ofInt (-9223372036854775808))) =
        .ok (.integer Int64.minValue) ∧
      IndexValue.exactValue? (.integer Int64.minValue) =
        Scalar.exactValue? (.float (.ofInt (-9223372036854775808))) ∧
      ∃ query, (Criterion.field Sample.fromSixLeaf).lower Sample.schema Sample.germanOrMain =
        .ok query ∧ query.isMatch Sample.document = true ∧
          Sample.schema.SomeName .empty Sample.germanOrMain Sample.document "code" fun _ name =>
            Sample.document.HoldsRelated name .gte (.single (.float (.ofInt 6))) := by
  obtain ⟨coercions, comparisons, leaves⟩ :=
    integer_fields_exact Sample.schema Sample.germanOrMain Sample.document
  have noText : Scalar.type (.float (.ofInt (-9223372036854775808))) ≠ .string := by
    simp [Scalar.type]
  obtain ⟨coerced, exact⟩ :=
    coercions (.float (.ofInt (-9223372036854775808))) (.integer Int64.minValue) noText
  have first : Scalar.coerce (some .integer) (.float (.ofInt (-9223372036854775808))) =
      .ok (.integer Int64.minValue) :=
    coerced.2 ⟨-9223372036854775808, Sample.exactValue?_first, by decide⟩
  obtain ⟨query, lowered, matched⟩ := IndexQuery.isMet_iff.1
    (by decide +kernel : IndexQuery.isMet Sample.document
      ((Criterion.field Sample.fromSixLeaf).lower Sample.schema Sample.germanOrMain) = true)
  have asksFirst := Scalar.AsksWord.of_exactValue? noText Sample.exactValue?_first (by decide)
  refine ⟨first, (exact first).2 asksFirst, query, lowered, matched, ?_⟩
  refine (leaves Sample.fromSixLeaf query lowered ?_ ?_ ?_).1 matched
  · intro contentType base hasBase
    obtain ⟨rfl, -⟩ := Sample.hasBase_code hasBase
    rfl
  · intro scalar given
    cases List.mem_singleton.1 given
    exact .of_exactValue? (by simp [Scalar.type]) Sample.exactValue?_six (by decide)
  · intro contentType base name hasBase looksUp stored member
    obtain ⟨rfl, rfl⟩ := Sample.hasBase_code hasBase
    obtain rfl : name = "article_code_value_i" := looksUp
    have held : Sample.document.get "article_code_value_i" = [.integer 6] := rfl
    rw [held, List.mem_singleton] at member
    subst member
    rfl

/-- A number past the words is brought to the last of them, and found there. -/
theorem Criterion.integer_fields_saturate :
    Scalar.exactValue? (.float (.ofInt 9223372036854775808)) =
        some (.ofRat (9223372036854775808 : Int)) ∧
      Scalar.coerce (some .integer) (.float (.ofInt 9223372036854775808)) =
        .ok (.integer Int64.maxValue) ∧
      IndexValue.exactValue? (.integer Int64.maxValue) =
        some (.ofRat (9223372036854775807 : Int)) ∧
      ∃ query, (Criterion.field Sample.hugeLeaf).lower Sample.schema Sample.germanOrMain =
        .ok query ∧ query.isMatch Sample.lastCode = true := by
  have last : Int64.maxValue.toInt = 9223372036854775807 := by decide
  have noText : Scalar.type (.float (.ofInt 9223372036854775808)) ≠ .string := by simp [Scalar.type]
  refine ⟨Sample.exactValue?_huge, ?_, ?_, IndexQuery.isMet_iff.1 (by decide +kernel)⟩
  · exact (Scalar.coerce_integer_iff noText).2
      ⟨9223372036854775808, Sample.exactValue?_huge, by decide⟩
  · rw [IndexValue.exactValue?_of_integer rfl, last]

end ContentFinder
