import ContentFinder.Content.DateHash
import ContentFinder.Proofs.CalendarDays
import Mathlib.Data.List.TakeWhile

/-! Reading back the text of a moment after RFC 850. Each part of the text is read as it was
written, but the year has two digits there, and is read as one from 1970 to 2069. -/

namespace ContentFinder.Calendar

open Number Text

namespace Scan

variable {α β : Type}

theorem run_bind {step : Scan α} {next : α → Scan β} {text rest : List Char} {value : α}
    (ran : step.run text = .ok (value, rest)) :
    (step >>= next).run text = (next value).run rest := by
  rw [StateT.run_bind, ran]
  rfl

theorem run_get (text : List Char) : (get : Scan (List Char)).run text = .ok (text, text) := rfl

theorem run_literal (c : Char) (rest : List Char) :
    (literal c).run (c :: rest) = .ok ((), rest) := by
  unfold literal
  rw [run_bind (run_get _)]
  dsimp only
  rw [if_pos rfl]
  rfl

theorem run_between {low high number : Nat} {scan : Scan Nat} {text rest : List Char}
    (ran : scan.run text = .ok (number, rest)) (inside : low ≤ number ∧ number ≤ high) :
    (between low high scan).run text = .ok (number, rest) := by
  unfold between
  rw [run_bind ran, if_neg (by omega)]
  rfl

/-! Numbers of two digits. -/

theorem digitChar_spec : ∀ digit < 10, (Nat.digitChar digit).isDigit = true ∧
    isBlank (Nat.digitChar digit) = false ∧ digitValue (Nat.digitChar digit) = digit := by
  decide

theorem toList_padded_two : ∀ number < 100, (padded 2 number).toList =
    [Nat.digitChar (number / 10), Nat.digitChar (number % 10)] := by
  decide

theorem run_skipBlanks_of_visible {c : Char} (visible : isBlank c = false) (rest : List Char) :
    skipBlanks.run (c :: rest) = .ok ((), c :: rest) := by
  show Except.ok ((), trimLeft (c :: rest)) = _
  rw [trimLeft, List.dropWhile_cons_of_neg (by simp [visible])]

theorem run_digits {least most : Nat} {number rest : List Char}
    (given : ∀ c ∈ number, c.isDigit = true) (full : number.length = most)
    (enough : least ≤ most) :
    (digits least most).run (number ++ rest) = .ok (ofDigits number, rest) := by
  have taken : ((number ++ rest).take most).takeWhile Char.isDigit = number := by
    rw [← full, List.take_left]
    exact List.takeWhile_eq_self_iff.2 given
  have long : ¬number.length < least := by omega
  unfold digits
  rw [run_bind (run_get _)]
  dsimp only
  rw [taken, if_neg long, List.drop_left]
  rfl

theorem run_looseNumber {number : Nat} (small : number < 100) (rest : List Char) :
    looseNumber.run ((padded 2 number).toList ++ rest) = .ok (number, rest) := by
  obtain ⟨tens, first, tensValue⟩ := digitChar_spec (number / 10) (by omega)
  obtain ⟨ones, -, onesValue⟩ := digitChar_spec (number % 10) (by omega)
  have value : ofDigits [Nat.digitChar (number / 10), Nat.digitChar (number % 10)] = number := by
    rw [ofDigits, List.foldl_cons, List.foldl_cons, List.foldl_nil, tensValue, onesValue]
    omega
  have digits := @run_digits 1 2 [Nat.digitChar (number / 10), Nat.digitChar (number % 10)] rest
    (by simp [tens, ones]) rfl (by decide)
  rw [value] at digits
  rw [toList_padded_two number small]
  exact (run_bind (run_skipBlanks_of_visible first _)).trans digits

theorem run_skipBlanks {number : Nat} (small : number < 100) (rest : List Char) :
    skipBlanks.run (' ' :: ((padded 2 number).toList ++ rest)) =
      .ok ((), (padded 2 number).toList ++ rest) := by
  obtain ⟨-, first, -⟩ := digitChar_spec (number / 10) (by omega)
  rw [toList_padded_two number small]
  show Except.ok ((), trimLeft _) = _
  rw [trimLeft, List.dropWhile_cons_of_pos rfl]
  exact congrArg _ (congrArg _ (List.dropWhile_cons_of_neg (by simp [first])))

/-! Names. -/

theorem stripWord_append (word rest : List Char) : stripWord word (word ++ rest) = some rest := by
  rw [stripWord, List.take_left, if_pos rfl, List.drop_left]

theorem isSome_stripWord_append {word text : List Char} (fits : word.length ≤ text.length)
    (rest : List Char) : (stripWord word (text ++ rest)).isSome = (stripWord word text).isSome := by
  unfold stripWord
  rw [List.take_append_of_le_length fits]
  split <;> rfl

theorem length_le_byteCount (text : List Char) : text.length ≤ byteCount text := by
  have sum : ∀ (text : List Char) (size : Nat),
      text.foldl (fun size c => size + c.utf8Size) size ≥ size + text.length := by
    intro text
    induction text with
    | nil => exact fun size => Nat.le_refl _
    | cons c rest ih =>
      intro size
      have more := ih (size + c.utf8Size)
      have first := c.utf8Size_pos
      rw [List.foldl_cons, List.length_cons]
      omega
  simpa [byteCount] using sum text 0

theorem run_shortName {names : List String} {letters rest : List Char} {index : Nat}
    (three : letters.length = 3)
    (found : names.findIdx? (fun name => (stripWord (name.toList.take 3) letters).isSome) =
      some index) :
    (shortName names).run (letters ++ rest) = .ok (index, rest) := by
  have long : ¬byteCount (letters ++ rest) < 3 := by
    have length := length_le_byteCount (letters ++ rest)
    rw [List.length_append] at length
    omega
  have same : (fun name : String => (stripWord (name.toList.take 3) (letters ++ rest)).isSome) =
      fun name => (stripWord (name.toList.take 3) letters).isSome := by
    funext name
    exact isSome_stripWord_append (by rw [List.length_take]; omega) rest
  unfold shortName
  rw [run_bind (run_get _)]
  dsimp only
  rw [if_neg long, same, found]
  show Except.ok (index, (letters ++ rest).drop 3) = _
  rw [← three, List.drop_left]

theorem run_month {month : Nat} (first : 1 ≤ month) (last : month ≤ 12) (rest : List Char) :
    Scan.month.run ((monthNames.getD (month - 1) "").toList ++ rest) = .ok (month, rest) := by
  have names : ∀ index < 12, (monthNames.getD index "").toList.length = 3 ∧
      monthNames.findIdx? (fun name => (stripWord (name.toList.take 3)
        (monthNames.getD index "").toList).isSome) = some index := by
    decide
  obtain ⟨three, found⟩ := names (month - 1) (by omega)
  unfold Scan.month
  rw [run_bind (run_shortName three found)]
  show Except.ok (month - 1 + 1, rest) = _
  rw [Nat.sub_add_cancel first]

theorem run_weekday {weekday : Nat} (known : weekday < 7) (rest : List Char) :
    Scan.weekday.run ((weekdayNames.getD weekday "").toList ++ rest) = .ok (weekday, rest) := by
  have names : ∀ index < 7, ((weekdayNames.getD index "").toList.take 3).length = 3 ∧
      weekdayNames.findIdx? (fun name => (stripWord (name.toList.take 3)
        ((weekdayNames.getD index "").toList.take 3)).isSome) = some index := by
    decide
  obtain ⟨three, found⟩ := names weekday known
  rw [← List.take_append_drop 3 (weekdayNames.getD weekday "").toList, List.append_assoc]
  unfold Scan.weekday
  rw [run_bind (run_shortName three found)]
  dsimp only
  show Except.ok (weekday, (stripWord _ _).getD _) = _
  rw [stripWord_append]
  rfl

end Scan

namespace Rfc850

open Scan

def yearRead (year : Int) : Int :=
  yearOf (year % 100).toNat

theorem yearRead_spec (year : Int) :
    1970 ≤ yearRead year ∧ yearRead year ≤ 2069 ∧
      yearRead year = year - 100 * ((year - yearRead year) / 100) := by
  unfold yearRead yearOf
  split <;> omega

theorem isLeap_yearRead {year : Int} (leap : isLeap year = true) :
    isLeap (yearRead year) = true := by
  obtain ⟨first, last, century⟩ := yearRead_spec year
  rw [isLeap_iff] at leap ⊢
  omega

theorem run_scan {weekday day month year hour minute second : Nat} (isWeekday : weekday < 7)
    (isDay : 1 ≤ day ∧ day ≤ 31) (isMonth : 1 ≤ month ∧ month ≤ 12) (isYear : year < 100)
    (isHour : hour ≤ 23) (isMinute : minute ≤ 59) (isSecond : second ≤ 60) :
    scan.run ((weekdayNames.getD weekday "").toList ++ ',' :: ' ' :: ((padded 2 day).toList ++
      '-' :: ((monthNames.getD (month - 1) "").toList ++ '-' :: ((padded 2 year).toList ++
      ' ' :: ((padded 2 hour).toList ++ ':' :: ((padded 2 minute).toList ++
      ':' :: (padded 2 second).toList)))))) =
        .ok (do
          let moment ← momentOf ⟨yearOf year, month, day⟩ hour minute second 0 0
          if Date.weekday (Date.number ⟨yearOf year, month, day⟩) = weekday then .ok moment
          else .error .impossible, []) := by
  unfold scan
  rw [run_bind (run_weekday isWeekday _), run_bind (run_literal _ _),
    run_bind (run_skipBlanks (by omega) _),
    run_bind (run_between (run_looseNumber (by omega) _) isDay), run_bind (run_literal _ _),
    run_bind (run_month isMonth.1 isMonth.2 _), run_bind (run_literal _ _),
    run_bind (run_looseNumber isYear _), run_bind (run_skipBlanks (by omega) _),
    run_bind (run_between (run_looseNumber (by omega) _) ⟨Nat.zero_le _, isHour⟩),
    run_bind (run_literal _ _),
    run_bind (run_between (run_looseNumber (by omega) _) ⟨Nat.zero_le _, isMinute⟩),
    run_bind (run_literal _ _), ← List.append_nil (padded 2 second).toList,
    run_bind (run_between (run_looseNumber (by omega) _) ⟨Nat.zero_le _, isSecond⟩)]
  rfl

theorem read_of_run {text : List Char} {result : Except DateFault Moment}
    (ran : scan.run text = .ok (result, [])) : read text = result := by
  have taken : whole scan text = .ok result := by
    show Prod.fst <$> (scan >>= fun value => finish >>= fun _ => pure value).run text = _
    rw [run_bind ran]
    rfl
  unfold read
  rw [taken]
  rfl

end Rfc850

/-! Moments. -/

namespace Moment

variable (moment : Moment)

theorem weekday_lt : moment.weekday < 7 := by
  unfold weekday Date.weekday
  omega

theorem hour_le : moment.hour ≤ 23 := by
  unfold hour
  omega

theorem minute_le : moment.minute ≤ 59 := by
  unfold minute
  omega

theorem second_le : moment.second ≤ 60 := by
  have leap := moment.leapEnds
  unfold second
  omega

theorem date_bounds : 1 ≤ moment.date.month ∧ moment.date.month ≤ 12 ∧ 1 ≤ moment.date.day ∧
    moment.date.day ≤ 31 := by
  obtain ⟨firstMonth, lastMonth, firstDay, lastDay⟩ :=
    Date.exists?_iff.1 (Date.exists?_ofNumber moment.dayNumber)
  exact ⟨firstMonth, lastMonth, firstDay, lastDay.trans (daysIn_le _ _)⟩

theorem momentOf_eq_ok {date : Date} (known : date.exists? = true)
    (year : 1970 ≤ date.year ∧ date.year ≤ 2069) :
    ∃ other, momentOf date moment.hour moment.minute moment.second 0 0 = .ok other ∧
      other.seconds = date.number * 86400 + moment.seconds % 86400 ∧
      other.nanos = moment.nanos / 1000000000 * 1000000000 := by
  have numbered := Date.number_span known year
  have leap := moment.leapEnds
  have time : date.number * 86400 + moment.hour * 3600 + moment.minute * 60 +
      (min moment.second 59 : Nat) = date.number * 86400 + moment.seconds % 86400 := by
    unfold hour minute second
    omega
  have leapNanos : (moment.second - min moment.second 59) * 1000000000 =
      moment.nanos / 1000000000 * 1000000000 := by
    unfold second
    omega
  have inSpan : earliest ≤ date.number * 86400 + moment.seconds % 86400 - 0 ∧
      date.number * 86400 + moment.seconds % 86400 - 0 ≤ latest := by
    unfold earliest latest
    omega
  have leapEnds : 0 + moment.nanos / 1000000000 * 1000000000 < 1000000000 ∨
      0 + moment.nanos / 1000000000 * 1000000000 < 2000000000 ∧
        (date.number * 86400 + moment.seconds % 86400 - 0) % 60 = 59 := by
    omega
  refine ⟨⟨_, _, inSpan, leapEnds⟩, ?_, by simp, by simp⟩
  unfold momentOf
  dsimp only
  rw [known, time, leapNanos, if_neg (by decide), if_neg (by omega), at?, dif_pos inSpan,
    dif_pos leapEnds]

end Moment

namespace Rfc850

theorem toList_write (moment : Moment) : (write moment).toList =
    (weekdayNames.getD moment.weekday "").toList ++ ',' :: ' ' ::
      ((padded 2 moment.date.day).toList ++ '-' ::
      ((monthNames.getD (moment.date.month - 1) "").toList ++ '-' ::
      ((padded 2 (moment.date.year % 100).toNat).toList ++ ' ' ::
      ((padded 2 moment.hour).toList ++ ':' :: ((padded 2 moment.minute).toList ++
      ':' :: (padded 2 moment.second).toList))))) := by
  simp [write]

def dateRead (moment : Moment) : Date :=
  { moment.date with year := yearRead moment.date.year }

/-- The years between the year of a moment and the one that its text is read with. -/
def yearsOff (moment : Moment) : Int :=
  moment.date.year - yearRead moment.date.year

theorem exists?_dateRead (moment : Moment) : (dateRead moment).exists? = true :=
  Date.exists?_of_leap (Date.exists?_ofNumber _) isLeap_yearRead

theorem dateRead_eq (moment : Moment) : ∃ centuries, yearsOff moment = 100 * centuries ∧
    dateRead moment = { moment.date with year := moment.date.year - 100 * centuries } := by
  obtain ⟨-, -, century⟩ := yearRead_spec moment.date.year
  refine ⟨(moment.date.year - yearRead moment.date.year) / 100, ?_, ?_⟩
  · unfold yearsOff
    omega
  · rw [← century]
    rfl

theorem weekday_dateRead (moment : Moment) :
    Date.weekday (dateRead moment).number = moment.weekday ↔ yearsOff moment % 400 = 0 := by
  obtain ⟨centuries, years, same⟩ := dateRead_eq moment
  have number : moment.date.number = moment.dayNumber := Date.number_ofNumber _
  rw [Moment.weekday, ← number, same, Date.weekday_centuries, years]
  omega

theorem number_dateRead {moment : Moment} (cycles : yearsOff moment % 400 = 0) :
    (dateRead moment).number = moment.dayNumber - 146097 * (yearsOff moment / 400) := by
  obtain ⟨centuries, years, same⟩ := dateRead_eq moment
  have number : moment.date.number = moment.dayNumber := Date.number_ofNumber _
  have whole : centuries = 4 * (yearsOff moment / 400) := by omega
  rw [same, whole, Date.number_cycles, number]

/-- The text of a moment is read as the same time of the same day in the year of its two digits, if
that day has the same weekday. -/
theorem read_write_eq (moment : Moment) : read (write moment).toList =
    momentOf (dateRead moment) moment.hour moment.minute moment.second 0 0 >>= fun other =>
      if Date.weekday (dateRead moment).number = moment.weekday then .ok other
      else .error .impossible := by
  obtain ⟨firstMonth, lastMonth, firstDay, lastDay⟩ := moment.date_bounds
  rw [toList_write]
  exact read_of_run (run_scan moment.weekday_lt ⟨firstDay, lastDay⟩ ⟨firstMonth, lastMonth⟩
    (by omega) moment.hour_le moment.minute_le moment.second_le)

/-- A text is refused unless its moment lies whole cycles of the calendar away from the years that
two digits can name, and then it is read as if it lay in them. -/
theorem read_write (moment : Moment) :
    (yearsOff moment % 400 ≠ 0 → read (write moment).toList = .error .impossible) ∧
    (yearsOff moment % 400 = 0 → ∃ other, read (write moment).toList = .ok other ∧
      other.seconds = moment.seconds - 146097 * (yearsOff moment / 400) * 86400 ∧
      other.nanos = moment.nanos / 1000000000 * 1000000000) := by
  obtain ⟨first, last, -⟩ := yearRead_spec moment.date.year
  obtain ⟨other, made, seconds, nanos⟩ :=
    moment.momentOf_eq_ok (exists?_dateRead moment) ⟨first, last⟩
  rw [read_write_eq, made]
  constructor
  · intro apart
    exact if_neg (mt (weekday_dateRead moment).1 apart)
  · intro cycles
    refine ⟨other, if_pos ((weekday_dateRead moment).2 cycles), ?_, nanos⟩
    rw [seconds, number_dateRead cycles, Moment.dayNumber]
    omega

theorem yearsOff_eq_zero_iff {moment : Moment} :
    yearsOff moment = 0 ↔ 1970 ≤ moment.date.year ∧ moment.date.year ≤ 2069 := by
  obtain ⟨first, last, century⟩ := yearRead_spec moment.date.year
  unfold yearsOff
  omega

end Rfc850

theorem Moment.year_iff (moment : Moment) :
    1970 ≤ moment.date.year ∧ moment.date.year ≤ 2069 ↔
      0 ≤ moment.seconds ∧ moment.seconds < 3155760000 := by
  rw [date, Date.year_ofNumber_iff, dayNumber]
  omega

theorem Moment.at?_eq_some {seconds : Int} {nanos : Nat} {moment : Moment}
    (made : Moment.at? seconds nanos = some moment) :
    moment.seconds = seconds ∧ moment.nanos = nanos := by
  unfold at? at made
  split at made
  · split at made
    · rw [← Option.some.inj made]
      exact ⟨rfl, rfl⟩
    · cases made
  · cases made

end ContentFinder.Calendar

/-! Hashes. -/

namespace ContentFinder

open Calendar

theorem withoutZone?_utc (text : List Char) :
    withoutZone? (text ++ " UTC".toList) = some text := by
  have cut : (text ++ " UTC".toList).length - 4 = text.length := by simp
  unfold withoutZone?
  dsimp only
  rw [cut, List.drop_left, List.take_left, if_pos (Or.inl rfl)]

theorem momentOfTimestamp_eq_ok {timestamp : Int64} {moment : Moment}
    (made : momentOfTimestamp timestamp = .ok moment) :
    moment.seconds = timestamp.toInt ∧ moment.nanos = 0 := by
  unfold momentOfTimestamp at made
  split at made
  · rename_i known
    rw [← Except.ok.inj made]
    exact Moment.at?_eq_some known
  · cases made

namespace DateHash

theorem text_ne_empty (moment : Moment) : Rfc850.write moment ++ " UTC" ≠ "" := by
  intro empty
  have length := congrArg String.length empty
  simp at length

theorem moment?_ofMoment (moment : Moment) : moment? (some (ofMoment moment)) =
    some <$> (Rfc850.read (Rfc850.write moment).toList).mapError fun fault =>
      Failure.serialization (.date (Rfc850.write moment ++ " UTC") fault) := by
  have text : momentOfRfc850 (Rfc850.write moment ++ " UTC") =
      (Rfc850.read (Rfc850.write moment).toList).mapError fun fault =>
        Failure.serialization (.date (Rfc850.write moment ++ " UTC") fault) := by
    unfold momentOfRfc850
    rw [String.toList_append, withoutZone?_utc]
  rw [← text]
  unfold moment? ofMoment
  dsimp only
  rw [if_neg (text_ne_empty moment)]
  cases momentOfRfc850 (Rfc850.write moment ++ " UTC") <;> rfl

/-- A hash that was made of a timestamp is read as the same moment for the timestamps from 1970 to
2069. For others it is refused, unless whole cycles of the calendar lie between their year and the
one that its two digits name; then it is read as the moment that many cycles away. -/
theorem decodes_iff {timestamp : Int64} {moment : Moment}
    (made : momentOfTimestamp timestamp = .ok moment) :
    (moment? (some (ofMoment moment)) = .ok (some moment) ↔
      0 ≤ timestamp.toInt ∧ timestamp.toInt < 3155760000) ∧
    (Rfc850.yearsOff moment % 400 ≠ 0 → moment? (some (ofMoment moment)) =
      .error (.serialization (.date (Rfc850.write moment ++ " UTC") .impossible))) ∧
    (Rfc850.yearsOff moment % 400 = 0 → ∃ other,
      moment? (some (ofMoment moment)) = .ok (some other) ∧ other.nanos = 0 ∧
        other.seconds = timestamp.toInt - 146097 * (Rfc850.yearsOff moment / 400) * 86400) := by
  obtain ⟨seconds, nanos⟩ := momentOfTimestamp_eq_ok made
  obtain ⟨refused, shifted⟩ := Rfc850.read_write moment
  rw [nanos, seconds] at shifted
  rw [moment?_ofMoment]
  refine ⟨?_, fun apart => by rw [refused apart]; rfl, fun cycles => ?_⟩
  · rw [← seconds, ← moment.year_iff, ← Rfc850.yearsOff_eq_zero_iff]
    constructor
    · intro same
      by_cases cycles : Rfc850.yearsOff moment % 400 = 0
      · obtain ⟨other, read, shift, -⟩ := shifted cycles
        rw [read] at same
        cases same
        omega
      · rw [refused cycles] at same
        cases same
    · intro named
      obtain ⟨other, read, shift, whole⟩ := shifted (by omega)
      have same : other = moment := by
        obtain ⟨otherSeconds, otherNanos, _, _⟩ := other
        obtain ⟨momentSeconds, momentNanos, _, _⟩ := moment
        simp_all
      rw [read, same]
      rfl
  · obtain ⟨other, read, shift, whole⟩ := shifted cycles
    exact ⟨other, by rw [read]; rfl, whole, shift⟩

theorem decodes_of_1971 : ∃ moment, momentOfTimestamp 31536000 = .ok moment ∧
    moment? (some (ofMoment moment)) = .ok (some moment) := by
  have made : momentOfTimestamp 31536000 = .ok _ := rfl
  exact ⟨_, made, (decodes_iff made).1.2 (by decide)⟩

/-- The last second of 1969 is read as one of 2069, where its weekday is another. The first second
of 2370 is read as that of 1970. -/
theorem not_decodes_outside :
    (∃ moment, momentOfTimestamp (-1) = .ok moment ∧ moment? (some (ofMoment moment)) =
      .error (.serialization (.date "Wednesday, 31-Dec-69 23:59:59 UTC" .impossible))) ∧
    ∃ moment, momentOfTimestamp 12622780800 = .ok moment ∧
      (moment? (some (ofMoment moment))).map (Option.map Moment.timestamp) = .ok (some 0) :=
  ⟨⟨_, rfl, rfl⟩, ⟨_, rfl, rfl⟩⟩

end DateHash

end ContentFinder
