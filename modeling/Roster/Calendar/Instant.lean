/-!
# Dates and instants

Days of the Gregorian calendar, extended to all years from `Date.firstYear` to `Date.lastYear`, and
moments of universal time on these days, to the nanosecond.

* `Date` — a day that exists.
* `Date.of?` — the day with a given year, month and day of the month, if it exists.
* `Date.next?` and `Date.previous?` — the neighbouring days; only the last day of the range has no
  next one, and only the first has no previous one.
* `Instant` — a date, the minute of that day, the second and the nanosecond.
* `Instant.ofLocal?` — the instant of a time that is some minutes ahead of universal time.
-/

set_option autoImplicit false

namespace Roster

/-! ## Days

Year zero and the years before it count as the calendar's rules say, so zero is a leap year. -/

namespace Date

/-- The first year of the range. -/
def firstYear : Int := -262143

/-- The last year of the range. -/
def lastYear : Int := 262142

/-- Whether a year has a twenty-ninth of February. -/
def isLeap (year : Int) : Bool :=
  year % 4 == 0 && (year % 100 != 0 || year % 400 == 0)

/-- The number of days in a month. -/
def lastDay (year : Int) (month : Nat) : Nat :=
  if month = 2 then (if isLeap year then 29 else 28)
  else if month = 4 ∨ month = 6 ∨ month = 9 ∨ month = 11 then 30
  else 31

/-- Whether a day exists and its year is in the range. -/
def Exists (year : Int) (month day : Nat) : Prop :=
  (firstYear ≤ year ∧ year ≤ lastYear) ∧ (1 ≤ month ∧ month ≤ 12) ∧
    1 ≤ day ∧ day ≤ lastDay year month

instance (year : Int) (month day : Nat) : Decidable (Exists year month day) :=
  inferInstanceAs (Decidable ((_ ∧ _) ∧ (_ ∧ _) ∧ _ ∧ _))

end Date

/-- A day of the calendar. -/
structure Date where
  year : Int
  month : Nat
  day : Nat
  valid : Date.Exists year month day
deriving DecidableEq

namespace Date

/-- The day with a given year, month and day of the month, if it exists. -/
def of? (year : Int) (month day : Nat) : Option Date :=
  if h : Exists year month day then some ⟨year, month, day, h⟩ else none

theorem of?_eq_some_iff {year : Int} {month day : Nat} {d : Date} :
    of? year month day = some d ↔ d.year = year ∧ d.month = month ∧ d.day = day := by
  rw [of?]
  split
  · simp only [Option.some.injEq]
    constructor
    · rintro rfl
      exact ⟨rfl, rfl, rfl⟩
    · rintro ⟨rfl, rfl, rfl⟩
      rfl
  · rename_i h
    simp only [reduceCtorEq, false_iff, not_and]
    rintro rfl rfl rfl
    exact h d.valid

/-- Every month has at least twenty-eight days. -/
theorem le_lastDay (year : Int) (month : Nat) : 28 ≤ lastDay year month := by
  rw [lastDay]
  repeat' split
  all_goals omega

/-- No month has more than thirty-one days. -/
theorem lastDay_le (year : Int) (month : Nat) : lastDay year month ≤ 31 := by
  rw [lastDay]
  repeat' split
  all_goals omega

/-- The day after. -/
def next? (d : Date) : Option Date :=
  if d.day < lastDay d.year d.month then of? d.year d.month (d.day + 1)
  else if d.month < 12 then of? d.year (d.month + 1) 1
  else of? (d.year + 1) 1 1

/-- The day before. -/
def previous? (d : Date) : Option Date :=
  if 1 < d.day then of? d.year d.month (d.day - 1)
  else if 1 < d.month then of? d.year (d.month - 1) (lastDay d.year (d.month - 1))
  else of? (d.year - 1) 12 31

end Date

/-! ## Moments

A minute may end with a leap second, which is its second sixty and distinct from the first second of
the next minute. -/

/-- A moment of universal time. -/
structure Instant where
  date : Date
  minute : Nat
  second : Nat
  nanosecond : Nat
  minute_lt : minute < 1440
  second_le : second ≤ 60
  nanosecond_lt : nanosecond < 1000000000
deriving DecidableEq

namespace Instant

/-- The day that lies a number of days after another; the number is `-1`, `0` or `1`. -/
def shiftDay (d : Date) (days : Int) : Option Date :=
  if days < 0 then d.previous? else if 0 < days then d.next? else some d

/-- The instant of a civil time that is `ahead` minutes ahead of universal time and less than a day
away from it.  There is none if the date in universal time is out of range. -/
def ofLocal? (civil : Instant) (ahead : Int) : Option Instant :=
  let minutes := (civil.minute : Int) - ahead
  (shiftDay civil.date (minutes / 1440)).map fun date =>
    { civil with
      date := date
      minute := (minutes % 1440).toNat
      minute_lt := by omega }

/-- A time is its own instant where universal time is kept. -/
theorem ofLocal?_zero (i : Instant) : i.ofLocal? 0 = some i := by
  have h := i.minute_lt
  have hq : (i.minute : Int) / 1440 = 0 := by omega
  have hr : (i.minute : Int) % 1440 = i.minute := by omega
  simp [ofLocal?, shiftDay, hq, hr]

end Instant

end Roster
