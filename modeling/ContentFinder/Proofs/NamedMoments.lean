import Mathlib.Data.List.Induction
import ContentFinder.Proofs.DateText
import ContentFinder.Proofs.Outcome

/-! The moments that a text after RFC 850 can name: the seconds from 1970 to 2069, and the leap
seconds at their ends. Case, blanks and leading zeros are free in such a text, but the moment that
was read has a text of its own, and that is read as the same moment. -/

namespace ContentFinder

namespace Number

theorem digitValue_lt {c : Char} (digit : c.isDigit = true) : digitValue c < 10 := by
  simp only [Char.isDigit, Bool.and_eq_true, decide_eq_true_eq, UInt32.le_iff_toNat_le] at digit
  have last : c.toNat ≤ 57 := digit.2
  have zero : '0'.toNat = 48 := rfl
  unfold digitValue
  omega

theorem ofDigits_lt {digits : List Char} (given : ∀ c ∈ digits, c.isDigit = true) :
    ofDigits digits < 10 ^ digits.length := by
  induction digits using List.reverseRecOn with
  | nil => exact Nat.one_pos
  | append_singleton digits last ih =>
    have before := ih fun c member => given c (by simp [member])
    have small := digitValue_lt (given last (by simp))
    rw [ofDigits, List.foldl_append, List.length_append, List.length_singleton, Nat.pow_succ]
    show ofDigits digits * 10 + digitValue last < _
    omega

end Number

namespace Calendar

open Number Outcome

/-! What a step of a scan can give. -/

namespace Scan

variable {α β : Type}

def Yields (holds : α → Prop) (step : Scan α) : Prop :=
  ∀ text value rest, step.run text = .ok (value, rest) → holds value

theorem yields_pure {holds : α → Prop} {value : α} (held : holds value) :
    Yields holds (pure value) := by
  intro text other rest ran
  cases ran
  exact held

theorem yields_bind {first : α → Prop} {second : β → Prop} {step : Scan α} {next : α → Scan β}
    (here : Yields first step) (later : ∀ value, first value → Yields second (next value)) :
    Yields second (step >>= next) := by
  intro text result rest ran
  rw [StateT.run_bind] at ran
  obtain ⟨⟨value, middle⟩, taken, after⟩ := bind_eq_ok.1 ran
  exact later value (here text value middle taken) middle result rest after

theorem yields_after {second : β → Prop} (step : Scan α) {next : α → Scan β}
    (later : ∀ value, Yields second (next value)) : Yields second (step >>= next) :=
  @yields_bind _ _ (fun _ => True) _ _ _ (fun _ _ _ _ => trivial) fun value _ => later value

theorem yields_between (low high : Nat) (scan : Scan Nat) :
    Yields (fun number => low ≤ number ∧ number ≤ high) (between low high scan) := by
  unfold between
  refine yields_after scan fun number => ?_
  split
  · intro text value rest ran
    cases ran
  · exact yields_pure (by omega)

theorem yields_digits (least most : Nat) : Yields (· < 10 ^ most) (digits least most) := by
  unfold digits
  refine yields_after get fun text => ?_
  have given : ∀ c ∈ (text.take most).takeWhile Char.isDigit, c.isDigit = true :=
    fun c member => List.mem_takeWhile_imp member
  have short : ((text.take most).takeWhile Char.isDigit).length ≤ most :=
    (List.takeWhile_prefix _).length_le.trans (List.length_take_le _ _)
  dsimp only
  split
  · intro text value rest ran
    cases ran
  · refine yields_after _ fun _ => yields_pure ?_
    exact (ofDigits_lt given).trans_le (Nat.pow_le_pow_right (by decide) short)

theorem yields_looseNumber : Yields (· < 100) looseNumber :=
  yields_after skipBlanks fun _ => yields_digits 1 2

theorem of_whole {holds : α → Prop} {step : Scan α} (yields : Yields holds step) {text : List Char}
    {value : α} (taken : whole step text = .ok value) : holds value := by
  have finished : Yields holds (do let value ← step; finish; return value) :=
    yields_bind yields fun value held => yields_after finish fun _ => yields_pure held
  obtain ⟨⟨result, rest⟩, ran, same⟩ := bind_eq_ok.1 taken
  cases same
  exact finished text result rest ran

end Scan

theorem of_momentOf {date : Date} {hour minute second nanos : Nat} {offset : Int} {moment : Moment}
    (made : momentOf date hour minute second nanos offset = .ok moment) :
    date.exists? = true ∧
      moment.seconds = date.number * 86400 + hour * 3600 + minute * 60 + (min second 59 : Nat) -
        offset ∧
      moment.nanos = nanos + (second - min second 59) * 1000000000 := by
  unfold momentOf at made
  split at made
  · cases made
  · rename_i known
    dsimp only at made
    split at made
    · cases made
    · split at made
      · rename_i other found
        cases made
        exact ⟨by simpa using known, Moment.at?_eq_some found⟩
      · cases made

theorem Moment.eq_of_parts {moment other : Moment} (seconds : moment.seconds = other.seconds)
    (nanos : moment.nanos = other.nanos) : moment = other := by
  cases moment
  cases other
  simp_all

namespace Rfc850

open Scan

/-- The moments that a text can name: the seconds from 1970 to 2069, and the leap seconds at the
ends of their minutes. A text tells no part of a second. -/
structure Names (moment : Moment) : Prop where
  first : 0 ≤ moment.seconds
  last : moment.seconds < 3155760000
  whole : moment.nanos % 1000000000 = 0

theorem yields_scan : Yields (fun result => ∀ moment, result = .ok moment → Names moment) scan := by
  unfold scan
  refine yields_after _ fun weekday => ?_
  refine yields_after _ fun _ => ?_
  refine yields_after _ fun _ => ?_
  refine yields_after _ fun day => ?_
  refine yields_after _ fun _ => ?_
  refine yields_after _ fun month => ?_
  refine yields_after _ fun _ => ?_
  refine yields_bind yields_looseNumber fun year isYear => ?_
  refine yields_after _ fun _ => ?_
  refine yields_bind (yields_between 0 23 _) fun hour isHour => ?_
  refine yields_after _ fun _ => ?_
  refine yields_bind (yields_between 0 59 _) fun minute isMinute => ?_
  refine yields_after _ fun _ => ?_
  refine yields_bind (yields_between 0 60 _) fun second isSecond => ?_
  refine yields_pure ?_
  intro moment told
  obtain ⟨other, made, same⟩ := bind_eq_ok.1 told
  have equal : other = moment := by
    split at same
    · exact Except.ok.inj same
    · cases same
  subst equal
  obtain ⟨known, seconds, nanos⟩ := of_momentOf made
  have named : 1970 ≤ yearOf year ∧ yearOf year ≤ 2069 := by
    unfold yearOf
    split <;> omega
  obtain ⟨firstDay, lastDay⟩ := Date.number_span known named
  exact ⟨by omega, by omega, by omega⟩

theorem names_of_read {text : List Char} {moment : Moment} (found : read text = .ok moment) :
    Names moment := by
  unfold read at found
  obtain ⟨result, taken, same⟩ := bind_eq_ok.1 found
  exact of_whole yields_scan taken moment same

theorem read_write_of_names {moment : Moment} (names : Names moment) :
    read (write moment).toList = .ok moment := by
  have near : yearsOff moment = 0 :=
    yearsOff_eq_zero_iff.2 (moment.year_iff.2 ⟨names.first, names.last⟩)
  obtain ⟨other, found, seconds, nanos⟩ := (read_write moment).2 (by omega)
  have whole := names.whole
  have same : other = moment := Moment.eq_of_parts (by omega) (by omega)
  rw [found, same]

end Rfc850

end Calendar

open Calendar

theorem names_of_momentOfRfc850 {text : String} {moment : Moment}
    (found : momentOfRfc850 text = .ok moment) : Rfc850.Names moment := by
  unfold momentOfRfc850 at found
  split at found
  · cases found
  · exact Rfc850.names_of_read (Outcome.mapError_eq_ok.1 found)

namespace DateHash

def rewrite (hash : DateHash) : Except Failure (Option DateHash) :=
  Option.map ofMoment <$> moment? (some hash)

theorem moment?_of_text {hash : DateHash} {text : String} {moment : Moment}
    (told : hash.rfc850 = some text) (found : momentOfRfc850 text = .ok moment) :
    moment? (some hash) = .ok (some moment) := by
  have notEmpty : text ≠ "" := by
    intro empty
    subst empty
    cases found
  unfold moment?
  dsimp only
  rw [told]
  dsimp only
  rw [if_neg notEmpty, found]
  rfl

/-- A date text that can be read, however it is written, stands for a moment whose hash is read as
the same moment. So a hash that is read by its text is rewritten once, and then stays as it is. -/
theorem rewrite_stable {text : String} {moment : Moment}
    (found : momentOfRfc850 text = .ok moment) :
    moment? (some (ofMoment moment)) = .ok (some moment) ∧
    ∀ hash : DateHash, hash.rfc850 = some text →
      hash.rewrite = .ok (some (ofMoment moment)) ∧
        (ofMoment moment).rewrite = .ok (some (ofMoment moment)) := by
  have reread : moment? (some (ofMoment moment)) = .ok (some moment) := by
    rw [moment?_ofMoment, Rfc850.read_write_of_names (names_of_momentOfRfc850 found)]
    rfl
  refine ⟨reread, fun hash told => ⟨?_, ?_⟩⟩
  · rw [rewrite, moment?_of_text told found]
    rfl
  · rw [rewrite, reread]
    rfl

/-- A leap second at the end of 2068, with a short weekday, in mixed case and with loose blanks. -/
theorem rewrite_stable_leap :
    ∃ moment, momentOfRfc850 "mON,  31-dEC-68 23: 59: 60 GMT" = .ok moment ∧
      (⟨0, some "mON,  31-dEC-68 23: 59: 60 GMT"⟩ : DateHash).rewrite =
        .ok (some ⟨3124223999, some "Monday, 31-Dec-68 23:59:60 UTC"⟩) := by
  have found : momentOfRfc850 "mON,  31-dEC-68 23: 59: 60 GMT" = .ok _ := rfl
  exact ⟨_, found, ((rewrite_stable found).2 _ rfl).1⟩

end DateHash

end ContentFinder
