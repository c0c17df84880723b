import ContentFinder.Calendar.Moment
import Mathlib.Tactic.IntervalCases

/-! Days and their numbers. Years are counted from March here, so that a leap day is the last day of
its year: the days before a year are then a sum over whole years, and the days before a month do not
depend on the year. -/

namespace ContentFinder.Calendar

theorem isLeap_iff {year : Int} :
    isLeap year = true ↔ year % 4 = 0 ∧ (year % 100 ≠ 0 ∨ year % 400 = 0) := by
  simp [isLeap]

theorem daysIn_le (year : Int) (month : Nat) : daysIn year month ≤ 31 := by
  unfold daysIn
  split <;> split <;> omega

/-- The days before a year that begins in March. -/
def daysBefore (year : Int) : Int :=
  365 * year + year / 4 - year / 100 + year / 400

/-- A year that begins in March has a leap day at its end if the next calendar year is one. -/
theorem daysBefore_succ (year : Int) :
    daysBefore (year + 1) = daysBefore year + 365 + if isLeap (year + 1) then 1 else 0 := by
  have leap := @isLeap_iff (year + 1)
  unfold daysBefore
  split
  · rename_i isLeap
    have rule := leap.1 isLeap
    omega
  · rename_i common
    have rule := mt leap.2 common
    omega

theorem daysBefore_cycle (cycle year : Int) :
    daysBefore (400 * cycle + year) = 146097 * cycle + daysBefore year := by
  unfold daysBefore
  omega

namespace Date

theorem exists?_iff {date : Date} : date.exists? = true ↔ 1 ≤ date.month ∧ date.month ≤ 12 ∧
    1 ≤ date.day ∧ date.day ≤ daysIn date.year date.month := by
  simp only [exists?, Bool.and_eq_true, decide_eq_true_eq, and_assoc]

def marchYear (date : Date) : Int :=
  if date.month ≤ 2 then date.year - 1 else date.year

def marchMonth (date : Date) : Int :=
  (date.month + 9) % 12

theorem number_eq (date : Date) :
    date.number =
      daysBefore date.marchYear + (153 * date.marchMonth + 2) / 5 + date.day - 719469 := by
  unfold number daysBefore marchYear marchMonth
  dsimp only
  omega

/-! The parts of a day number. -/

def yearOfCycle (day : Int) : Int :=
  (day - day / 1460 + day / 36524 - day / 146096) / 365

theorem yearOfCycle_spec {day : Int} (notBefore : 0 ≤ day) (within : day < 146097) :
    0 ≤ yearOfCycle day ∧ yearOfCycle day < 400 ∧ daysBefore (yearOfCycle day) ≤ day ∧
      day < daysBefore (yearOfCycle day + 1) := by
  -- The last day of a cycle is a leap day more than its fourth century has.
  by_cases last : day = 146096
  · subst last
    decide
  have none : day / 146096 = 0 := by omega
  have century : 0 ≤ day / 36524 ∧ day / 36524 ≤ 3 := by omega
  unfold yearOfCycle daysBefore
  rw [none, Int.sub_zero]
  generalize same : day / 36524 = centuries at century ⊢
  generalize count : day / 1460 = leaps
  generalize division : (day - leaps + centuries) / 365 = year
  have span : 365 * year ≤ day - leaps + centuries ∧
      day - leaps + centuries < 365 * year + 365 := by
    omega
  have inCentury : 100 * centuries ≤ year ∧ year < 100 * centuries + 100 := by omega
  have quarters : year / 4 ≤ leaps ∧ leaps ≤ (year + 1) / 4 := by omega
  have hundreds : year / 100 = centuries ∧ year / 400 = 0 := by omega
  by_cases ends : year = 100 * centuries + 99
  · omega
  · have next : (year + 1) / 100 = centuries ∧ (year + 1) / 400 = 0 := by omega
    omega

def ofMarch (year day : Int) : Date :=
  let month := (5 * day + 2) / 153
  let calendarMonth := if month < 10 then month + 3 else month - 9
  ⟨year + (if calendarMonth ≤ 2 then 1 else 0), calendarMonth.toNat,
    (day - (153 * month + 2) / 5 + 1).toNat⟩

theorem daysIn_march {month : Int} (first : 0 ≤ month) (notLast : month < 11) (year : Int) :
    (daysIn year (if month < 10 then month + 3 else month - 9).toNat : Int) =
      (153 * (month + 1) + 2) / 5 - (153 * month + 2) / 5 := by
  interval_cases month <;> rfl

/-- The day of a number lies in a year that begins in March, as far behind its first day as the
number is behind the days before it. -/
theorem exists_ofMarch (number : Int) :
    ∃ year day, ofNumber number = ofMarch year day ∧ number = daysBefore year + day - 719468 ∧
      0 ≤ day ∧ day < 365 + if isLeap (year + 1) then 1 else 0 := by
  have notBefore : 0 ≤ (number + 719468) % 146097 := by omega
  have within : (number + 719468) % 146097 < 146097 := by omega
  obtain ⟨first, last, started, ends⟩ := yearOfCycle_spec notBefore within
  generalize same : yearOfCycle ((number + 719468) % 146097) = year at first last started ends
  have cycle := daysBefore_cycle ((number + 719468) / 146097) year
  have next := daysBefore_succ (400 * ((number + 719468) / 146097) + year)
  have nextOfCycle := daysBefore_cycle ((number + 719468) / 146097) (year + 1)
  rw [← Int.add_assoc] at nextOfCycle
  refine ⟨400 * ((number + 719468) / 146097) + year,
    (number + 719468) % 146097 - daysBefore year, ?_, by omega, by omega, by omega⟩
  have days : daysBefore year = 365 * year + year / 4 - year / 100 := by
    unfold daysBefore
    omega
  rw [days]
  unfold ofNumber ofMarch
  unfold yearOfCycle at same
  dsimp only
  rw [same, Int.add_comm year, Int.mul_comm _ 400]

section OfMarch

variable {year day : Int} (notBefore : 0 ≤ day)
  (within : day < 365 + if isLeap (year + 1) then 1 else 0)

include notBefore within

/-- The month of a day of the year, March being 0, and the day of the month. -/
theorem monthOfYear_spec : 0 ≤ (5 * day + 2) / 153 ∧ (5 * day + 2) / 153 < 12 ∧
    (153 * ((5 * day + 2) / 153) + 2) / 5 ≤ day := by
  have short : day < 366 := by
    split at within <;> omega
  omega

theorem marchYear_ofMarch : (ofMarch year day).marchYear = year := by
  obtain ⟨first, last, -⟩ := monthOfYear_spec notBefore within
  unfold ofMarch marchYear
  dsimp only
  generalize (5 * day + 2) / 153 = month at first last
  split <;> split <;> omega

theorem marchMonth_ofMarch : (ofMarch year day).marchMonth = (5 * day + 2) / 153 := by
  obtain ⟨first, last, -⟩ := monthOfYear_spec notBefore within
  unfold ofMarch marchMonth
  dsimp only
  generalize (5 * day + 2) / 153 = month at first last
  split <;> omega

theorem day_ofMarch :
    ((ofMarch year day).day : Int) = day - (153 * ((5 * day + 2) / 153) + 2) / 5 + 1 := by
  obtain ⟨-, -, started⟩ := monthOfYear_spec notBefore within
  unfold ofMarch
  dsimp only
  omega

theorem number_ofMarch : (ofMarch year day).number = daysBefore year + day - 719468 := by
  rw [number_eq, marchYear_ofMarch notBefore within, marchMonth_ofMarch notBefore within,
    day_ofMarch notBefore within]
  omega

theorem exists?_ofMarch : (ofMarch year day).exists? = true := by
  obtain ⟨first, last, started⟩ := monthOfYear_spec notBefore within
  have ends : 5 * day + 2 < 153 * ((5 * day + 2) / 153) + 153 := by omega
  unfold ofMarch
  rw [exists?_iff]
  dsimp only
  generalize (5 * day + 2) / 153 = month at first last started ends
  refine ⟨by split <;> omega, by split <;> omega, by omega, ?_⟩
  by_cases february : month = 11
  · subst february
    -- February is the last month, and has as many days as the year has left for it.
    show _ ≤ if isLeap (year + 1) then 29 else 28
    split
    · rename_i leap
      rw [if_pos leap] at within
      omega
    · rename_i common
      rw [if_neg common] at within
      omega
  · rw [← Int.ofNat_le, daysIn_march first (by omega)]
    omega

end OfMarch

theorem number_ofNumber (number : Int) : (ofNumber number).number = number := by
  obtain ⟨year, day, same, split, notBefore, within⟩ := exists_ofMarch number
  rw [same, number_ofMarch notBefore within, split]

theorem exists?_ofNumber (number : Int) : (ofNumber number).exists? = true := by
  obtain ⟨year, day, same, -, notBefore, within⟩ := exists_ofMarch number
  rw [same, exists?_ofMarch notBefore within]

theorem year_ofNumber_iff {number : Int} :
    1970 ≤ (ofNumber number).year ∧ (ofNumber number).year ≤ 2069 ↔
      0 ≤ number ∧ number < 36525 := by
  obtain ⟨year, day, same, split, notBefore, within⟩ := exists_ofMarch number
  have short : day < 366 := by
    split at within <;> omega
  have calendarYear : (ofMarch year day).year = if day < 306 then year else year + 1 := by
    unfold ofMarch
    dsimp only
    split <;> split <;> split <;> omega
  rw [same, calendarYear]
  unfold daysBefore at split
  -- The first and the last year that begin in March lie in the span in part only.
  have years : year ≤ 1968 ∨ year = 1969 ∨ 1970 ≤ year ∧ year ≤ 2068 ∨ year = 2069 ∨
      2070 ≤ year := by omega
  rcases years with before | rfl | inside | rfl | behind
  · omega
  · omega
  · omega
  · omega
  · omega

/-! The same day of another year. -/

theorem exists?_of_leap {date : Date} {year : Int} (known : date.exists? = true)
    (leap : isLeap date.year = true → isLeap year = true) :
    { date with year }.exists? = true := by
  have longer : daysIn date.year date.month ≤ daysIn year date.month := by
    unfold daysIn
    split
    · split
      · rename_i isLeap
        rw [if_pos (leap isLeap)]
      · split <;> omega
    · exact Nat.le_refl _
  obtain ⟨first, last, notBefore, within⟩ := exists?_iff.1 known
  exact exists?_iff.2 ⟨first, last, notBefore, within.trans longer⟩

/-- The days from 1970 to 2069 have the numbers from 0 on. -/
theorem number_span {date : Date} (known : date.exists? = true)
    (span : 1970 ≤ date.year ∧ date.year ≤ 2069) : 0 ≤ date.number ∧ date.number < 36525 := by
  obtain ⟨firstMonth, lastMonth, firstDay, lastDay⟩ := exists?_iff.1 known
  have short := daysIn_le date.year date.month
  have march : 0 ≤ date.marchMonth ∧ date.marchMonth < 12 ∧
      (date.marchMonth < 10 ↔ date.marchYear = date.year) ∧
      (10 ≤ date.marchMonth ↔ date.marchYear = date.year - 1) := by
    unfold marchMonth marchYear
    split <;> omega
  have century : date.marchYear / 100 = 19 ∧ date.marchYear / 400 = 4 ∨
      date.marchYear / 100 = 20 ∧ date.marchYear / 400 = 5 := by
    omega
  rw [number_eq]
  unfold daysBefore
  obtain ⟨hundreds, cycles⟩ | ⟨hundreds, cycles⟩ := century
  · rw [hundreds, cycles]
    omega
  · rw [hundreds, cycles]
    omega

theorem number_centuries (date : Date) (centuries : Int) :
    { date with year := date.year - 100 * centuries }.number = date.number - 36524 * centuries -
      (date.marchYear / 400 - (date.marchYear - 100 * centuries) / 400) := by
  have year : { date with year := date.year - 100 * centuries }.marchYear =
      date.marchYear - 100 * centuries := by
    unfold marchYear
    dsimp only
    split <;> omega
  rw [number_eq, number_eq, year]
  unfold daysBefore marchMonth
  dsimp only
  omega

/-- The calendar repeats itself every four centuries. -/
theorem number_cycles (date : Date) (cycles : Int) :
    { date with year := date.year - 100 * (4 * cycles) }.number =
      date.number - 146097 * cycles := by
  rw [number_centuries]
  omega

theorem weekday_eq_iff {number other : Int} :
    weekday number = weekday other ↔ (number - other) % 7 = 0 := by
  unfold weekday
  omega

/-- A day has its weekday in another century just when whole cycles lie between them. -/
theorem weekday_centuries (date : Date) (centuries : Int) :
    weekday { date with year := date.year - 100 * centuries }.number = weekday date.number ↔
      centuries % 4 = 0 := by
  rw [weekday_eq_iff, number_centuries]
  omega

end Date

end ContentFinder.Calendar
