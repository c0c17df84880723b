import ContentFinder.Proofs.Reading

/-! Field values read back from what they store. A value that is read back stores the same again. It
can be read back when it stores anything, save that a date field stores every integer and reads only
the seconds that the calendar has. -/

namespace ContentFinder

open Calendar

namespace Calendar.Moment

variable {timestamp : Int64}

theorem ofTimestamp?_eq_some {moment : Moment} :
    ofTimestamp? timestamp = some moment ↔
      moment.seconds = timestamp.toInt ∧ moment.nanos = 0 := by
  unfold ofTimestamp? at?
  obtain ⟨seconds, nanos, inSpan, leapEnds⟩ := moment
  constructor
  · intro read
    split_ifs at read
    cases read
    exact ⟨rfl, rfl⟩
  · rintro ⟨rfl, rfl⟩
    rw [dif_pos inSpan, dif_pos leapEnds]

theorem exists_ofTimestamp? :
    (∃ moment, ofTimestamp? timestamp = some moment) ↔
      earliest ≤ timestamp.toInt ∧ timestamp.toInt ≤ latest := by
  simp only [ofTimestamp?_eq_some]
  constructor
  · rintro ⟨moment, same, -⟩
    exact same ▸ moment.inSpan
  · intro inSpan
    exact ⟨⟨timestamp.toInt, 0, inSpan, .inl (by decide)⟩, rfl, rfl⟩

theorem timestamp_of_ofTimestamp? {moment : Moment} (read : ofTimestamp? timestamp = some moment) :
    moment.timestamp = timestamp := by
  apply Int64.toInt.inj
  rw [toInt_timestamp, (ofTimestamp?_eq_some.1 read).1]

end Calendar.Moment

namespace FieldKind

/-- An integer on a date field that no second of the calendar has for a timestamp. -/
def PastCalendar (kind : FieldKind) (value : FieldValue) : Prop :=
  kind = .date ∧ ∃ timestamp : Int64, value = .integer timestamp ∧
    ¬(earliest ≤ timestamp.toInt ∧ timestamp.toInt ≤ latest)

variable {kind : FieldKind} {value : FieldValue} {values : List IndexValue}

/-- What a value stores: nothing, or one value that it can be read back from unless it lies outside
the calendar. -/
inductive Stores : FieldKind → FieldValue → List IndexValue → Prop where
  | nothing : Stores .date (.dateTime none) []
  | restorable {kind : FieldKind} {value restored : FieldValue} {stored : IndexValue}
      (read : kind.decode [stored] = some restored) (again : kind.encode restored = .ok [stored])
      (within : ¬kind.PastCalendar value) : Stores kind value [stored]
  | pastCalendar {timestamp : Int64} (past : PastCalendar .date (.integer timestamp)) :
      Stores .date (.integer timestamp) [.date timestamp]

theorem not_pastCalendar (other : kind ≠ .date) : ¬kind.PastCalendar value :=
  fun past => other past.1

theorem stores_date {timestamp : Int64} {moment : Moment}
    (read : Moment.ofTimestamp? timestamp = some moment)
    (within : ¬PastCalendar .date value) : Stores .date value [.date timestamp] := by
  have restored : decode .date [.date timestamp] = some (.dateTime (some moment)) := by
    simp [decode, IndexValue.integer?, read]
  refine .restorable restored ?_ within
  simp [encode, Moment.timestamp_of_ofTimestamp? read]

theorem stores_of_encode (encoded : kind.encode value = .ok values) : Stores kind value values := by
  cases kind with
  | string | text | integer | float | boolean =>
    cases value <;> cases encoded <;> exact .restorable rfl rfl (not_pastCalendar nofun)
  | date =>
    cases value with
    | dateTime moment =>
      cases encoded
      cases moment with
      | none => exact .nothing
      | some moment =>
        exact stores_date moment.ofTimestamp?_timestamp fun ⟨_, _, other, _⟩ => nomatch other
    | integer timestamp =>
      cases encoded
      by_cases within : earliest ≤ timestamp.toInt ∧ timestamp.toInt ≤ latest
      · obtain ⟨moment, read⟩ := Moment.exists_ofTimestamp?.2 within
        refine stores_date read ?_
        rintro ⟨-, other, same, past⟩
        cases same
        exact past within
      · exact .pastCalendar ⟨rfl, timestamp, rfl, within⟩
    | text | float | boolean | mapLocation => cases encoded
  | geoLocation =>
    cases value with
    | mapLocation latitude longitude address =>
      simp only [encode] at encoded
      split at encoded
      · rename_i onGlobe
        cases encoded
        exact .restorable rfl (if_pos onGlobe) (not_pastCalendar nofun)
      · cases encoded
    | text | integer | float | boolean | dateTime => cases encoded

theorem decode_pastCalendar {timestamp : Int64} (past : PastCalendar .date (.integer timestamp)) :
    decode .date [.date timestamp] = none := by
  obtain ⟨-, other, same, outside⟩ := past
  cases same
  cases read : Moment.ofTimestamp? timestamp with
  | none => simp [decode, IndexValue.integer?, read]
  | some moment => exact absurd (Moment.exists_ofTimestamp?.1 ⟨moment, read⟩) outside

/-- Where a field value is accepted, what it stores is read back as a value that stores the same. It
can be read back when it stores anything and is no integer outside the calendar on a date field. -/
theorem decode_of_encode (encoded : kind.encode value = .ok values) :
    (values = [] → kind.decode values = none) ∧
    (∀ restored, kind.decode values = some restored → kind.encode restored = .ok values) ∧
    (values ≠ [] →
      ((∃ restored, kind.decode values = some restored) ↔ ¬kind.PastCalendar value)) := by
  cases stores_of_encode encoded with
  | nothing =>
    refine ⟨fun _ => rfl, fun restored read => ?_, fun some => absurd rfl some⟩
    cases read
  | restorable read again within =>
    refine ⟨nofun, fun other readOther => ?_, fun _ => iff_of_true ⟨_, read⟩ within⟩
    cases read.symm.trans readOther
    exact again
  | pastCalendar past =>
    have unread := decode_pastCalendar past
    refine ⟨nofun, fun other readOther => ?_, fun _ => iff_of_false ?_ (not_not_intro past)⟩
    · cases unread.symm.trans readOther
    · rintro ⟨other, readOther⟩
      cases unread.symm.trans readOther

theorem decode_latest :
    (∃ restored, decode .date [.date 8210266876799] = some restored ∧
      encode .date restored = .ok [.date 8210266876799]) ∧
    encode .date (.dateTime none) = .ok [] ∧ decode .date [] = none := by
  have encoded : encode .date (.integer 8210266876799) = .ok [.date 8210266876799] := rfl
  obtain ⟨-, again, readable⟩ := decode_of_encode encoded
  have within : ¬PastCalendar .date (.integer 8210266876799) := by
    rintro ⟨-, timestamp, same, past⟩
    cases same
    exact past (by decide)
  obtain ⟨restored, read⟩ := (readable nofun).2 within
  have empty : encode .date (.dateTime none) = .ok [] := rfl
  exact ⟨⟨restored, read, again restored read⟩, empty, (decode_of_encode empty).1 rfl⟩

/-- The last word is stored on a date field, and cannot be read back. -/
theorem not_decode_last_word :
    encode .date (.integer 9223372036854775807) = .ok [.date 9223372036854775807] ∧
      decode .date [.date 9223372036854775807] = none := by
  decide

end FieldKind

end ContentFinder
