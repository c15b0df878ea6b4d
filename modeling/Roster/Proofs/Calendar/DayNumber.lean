import Roster.Calendar.Instant

/-!
# Counting days

The days of the calendar, numbered one after the other.  The number of a day is found by the rules
of the calendar alone and not by going from day to day, so it says independently of `Date.next?` and
`Date.previous?` which day is which, and whether a time of another offset is the right one.

* `Date.daysBeforeYear` and `Date.daysOfMonths` — the days before a year, and those of its first
  months.
* `Date.number` — the number of a day.  Different days have different numbers (`Date.number_inj`).
* `Date.isAt_next?` and `Date.isAt_previous?` — the neighbouring days have the neighbouring numbers,
  and are missing only at the ends of the range.
* `Instant.minutes` — the minutes since the start of the year zero.
* `Instant.ofLocal?_spec` — the instant of a local time is as many minutes away as the offset says,
  and exists as long as that is in range.
-/

set_option autoImplicit false

namespace Roster
namespace Date

/-! ## The number of a day -/

/-- The days from the start of the year zero to the start of a year.  Every fourth year has a day
more, except for every hundredth of which only every fourth has one. -/
def daysBeforeYear (year : Int) : Int :=
  365 * year + (year + 3) / 4 - (year + 99) / 100 + (year + 399) / 400

/-- The days of the first months of a year. -/
def daysOfMonths (year : Int) : Nat → Nat
  | 0 => 0
  | months + 1 => daysOfMonths year months + lastDay year (months + 1)

/-- The number of a day, counted from the start of the year zero. -/
def numberOf (year : Int) (month day : Nat) : Int :=
  daysBeforeYear year + daysOfMonths year (month - 1) + day - 1

/-- The number of a day. -/
def number (d : Date) : Int := numberOf d.year d.month d.day

/-- Whether a year has a month with a day, however far away the year is. -/
def IsDay (year : Int) (month day : Nat) : Prop :=
  (1 ≤ month ∧ month ≤ 12) ∧ 1 ≤ day ∧ day ≤ lastDay year month

/-- The numbers of the days of the calendar. -/
def InRange (n : Int) : Prop := daysBeforeYear firstYear ≤ n ∧ n < daysBeforeYear (lastYear + 1)

instance : DecidablePred InRange := fun n =>
  inferInstanceAs (Decidable (daysBeforeYear firstYear ≤ n ∧ n < daysBeforeYear (lastYear + 1)))

/-- A year has as many days as its twelve months. -/
theorem daysBeforeYear_succ (year : Int) :
    daysBeforeYear (year + 1) = daysBeforeYear year + daysOfMonths year 12 := by
  have hleap : (isLeap year = true ↔ year % 4 = 0 ∧ (year % 100 ≠ 0 ∨ year % 400 = 0)) := by
    simp [isLeap]
  have hmonths : daysOfMonths year 12 = if isLeap year = true then 366 else 365 := by
    simp only [daysOfMonths, lastDay]
    cases isLeap year <;> rfl
  rw [hmonths, daysBeforeYear, daysBeforeYear]
  split
  · next h =>
    have h := hleap.mp h
    omega
  · next h =>
    have h := mt hleap.mpr h
    omega

theorem daysOfMonths_pred {month : Nat} (h : 1 ≤ month) (year : Int) :
    daysOfMonths year month = daysOfMonths year (month - 1) + lastDay year month := by
  obtain ⟨m, rfl⟩ := Nat.exists_eq_add_of_le' h
  rfl

theorem daysOfMonths_mono (year : Int) {m n : Nat} (h : m ≤ n) :
    daysOfMonths year m ≤ daysOfMonths year n := by
  induction h with
  | refl => exact Nat.le_refl _
  | step _ ih => exact Nat.le_trans ih (Nat.le_add_right _ _)

theorem daysBeforeYear_mono {y z : Int} (h : y ≤ z) : daysBeforeYear y ≤ daysBeforeYear z := by
  rw [daysBeforeYear, daysBeforeYear]
  omega

section Days

variable {year year' : Int} {month month' day day' : Nat}

/-- The days of a month have the numbers behind those of the months before. -/
theorem numberOf_bounds_month (h : IsDay year month day) :
    daysBeforeYear year + daysOfMonths year (month - 1) ≤ numberOf year month day ∧
      numberOf year month day < daysBeforeYear year + daysOfMonths year month := by
  obtain ⟨⟨hmonth, -⟩, hday, hlast⟩ := h
  rw [numberOf, daysOfMonths_pred hmonth]
  omega

/-- The days of a year have the numbers behind those of the years before. -/
theorem numberOf_bounds_year (h : IsDay year month day) :
    daysBeforeYear year ≤ numberOf year month day ∧
      numberOf year month day < daysBeforeYear (year + 1) := by
  have hbounds := numberOf_bounds_month h
  have hmonths := daysOfMonths_mono year h.1.2
  rw [daysBeforeYear_succ]
  omega

/-- **A number belongs to one day only.** -/
theorem numberOf_inj (h : IsDay year month day) (h' : IsDay year' month' day')
    (heq : numberOf year month day = numberOf year' month' day') :
    year = year' ∧ month = month' ∧ day = day' := by
  have hyear : year = year' := by
    have hbounds := numberOf_bounds_year h
    have hbounds' := numberOf_bounds_year h'
    rcases Int.lt_trichotomy year year' with hlt | heq | hlt
    · have := daysBeforeYear_mono (Int.add_one_le_of_lt hlt)
      omega
    · exact heq
    · have := daysBeforeYear_mono (Int.add_one_le_of_lt hlt)
      omega
  subst hyear
  have hmonth : month = month' := by
    have hbounds := numberOf_bounds_month h
    have hbounds' := numberOf_bounds_month h'
    rcases Nat.lt_trichotomy month month' with hlt | heq | hlt
    · have := daysOfMonths_mono year (Nat.le_sub_one_of_lt hlt)
      omega
    · exact heq
    · have := daysOfMonths_mono year (Nat.le_sub_one_of_lt hlt)
      omega
  subst hmonth
  rw [numberOf, numberOf] at heq
  exact ⟨rfl, rfl, by omega⟩

/-- The years of the range are those whose days have its numbers. -/
theorem inRange_numberOf_iff (h : IsDay year month day) :
    InRange (numberOf year month day) ↔ firstYear ≤ year ∧ year ≤ lastYear := by
  have hbounds := numberOf_bounds_year h
  rw [InRange]
  constructor
  · rintro ⟨hfirst, hlast⟩
    refine ⟨Int.not_lt.mp fun hlt => ?_, Int.not_lt.mp fun hlt => ?_⟩
    · have := daysBeforeYear_mono (Int.add_one_le_of_lt hlt)
      omega
    · have := daysBeforeYear_mono (Int.add_one_le_of_lt hlt)
      omega
  · rintro ⟨hfirst, hlast⟩
    have := daysBeforeYear_mono hfirst
    have := daysBeforeYear_mono (Int.add_le_add_right hlast 1)
    omega

end Days

theorem isDay (d : Date) : IsDay d.year d.month d.day := d.valid.2

theorem number_inj {d e : Date} (h : d.number = e.number) : d = e := by
  obtain ⟨hyear, hmonth, hday⟩ := numberOf_inj d.isDay e.isDay h
  cases d
  cases e
  subst hyear hmonth hday
  rfl

/-! ## The neighbouring days -/

/-- A day has a given number; if there is none, the number is no day's. -/
def IsAt (d : Option Date) (n : Int) : Prop :=
  match d with
  | some e => e.number = n
  | none => ¬ InRange n

theorem isAt_of? {year : Int} {month day : Nat} (h : IsDay year month day) :
    IsAt (of? year month day) (numberOf year month day) := by
  rw [of?]
  split
  · rfl
  · next hmissing =>
    rw [IsAt, inRange_numberOf_iff h]
    exact fun hyear => hmissing ⟨hyear, h⟩

theorem inRange_number (d : Date) : InRange d.number := (inRange_numberOf_iff d.isDay).mpr d.valid.1

/-- **The day after a day has the next number**, and there is none only at the end of the range. -/
theorem isAt_next? (d : Date) : IsAt d.next? (d.number + 1) := by
  obtain ⟨⟨hmonth, hmonth'⟩, hday, hday'⟩ := d.isDay
  have hpred := daysOfMonths_pred hmonth d.year
  rw [next?]
  split
  · have hnumber : numberOf d.year d.month (d.day + 1) = d.number + 1 := by
      rw [number, numberOf, numberOf]
      omega
    exact hnumber ▸ isAt_of? ⟨⟨hmonth, hmonth'⟩, by omega, by omega⟩
  · split
    · have hfirst := le_lastDay d.year (d.month + 1)
      have hnumber : numberOf d.year (d.month + 1) 1 = d.number + 1 := by
        rw [number, numberOf, numberOf, Nat.add_sub_cancel]
        omega
      exact hnumber ▸ isAt_of? ⟨by omega, by omega, by omega⟩
    · have hfirst := le_lastDay (d.year + 1) 1
      have hdecember : d.month = 12 := by omega
      have hnumber : numberOf (d.year + 1) 1 1 = d.number + 1 := by
        rw [number, numberOf, numberOf, daysBeforeYear_succ, ← hdecember, daysOfMonths]
        omega
      exact hnumber ▸ isAt_of? ⟨by omega, by omega, by omega⟩

/-- **The day before a day has the number before**, and there is none only at the start of the
range. -/
theorem isAt_previous? (d : Date) : IsAt d.previous? (d.number - 1) := by
  obtain ⟨⟨hmonth, hmonth'⟩, hday, hday'⟩ := d.isDay
  rw [previous?]
  split
  · have hnumber : numberOf d.year d.month (d.day - 1) = d.number - 1 := by
      rw [number, numberOf, numberOf]
      omega
    exact hnumber ▸ isAt_of? ⟨⟨hmonth, hmonth'⟩, by omega, by omega⟩
  · split
    · have hlast := le_lastDay d.year (d.month - 1)
      have hpred := daysOfMonths_pred (show 1 ≤ d.month - 1 by omega) d.year
      have hnumber : numberOf d.year (d.month - 1) (lastDay d.year (d.month - 1)) =
          d.number - 1 := by
        rw [number, numberOf, numberOf]
        omega
      exact hnumber ▸ isAt_of? ⟨by omega, by omega, by omega⟩
    · have hjanuary : d.month = 1 := by omega
      have hsucc := daysBeforeYear_succ (d.year - 1)
      have hpred := daysOfMonths_pred (show 1 ≤ 12 by decide) (d.year - 1)
      have hdecember : lastDay (d.year - 1) 12 = 31 := rfl
      have hnumber : numberOf (d.year - 1) 12 31 = d.number - 1 := by
        rw [Int.sub_add_cancel] at hsucc
        rw [number, numberOf, numberOf, hjanuary, hsucc, daysOfMonths]
        omega
      exact hnumber ▸ isAt_of? ⟨by decide, by decide, by omega⟩

end Date

namespace Instant

/-! ## Minutes -/

/-- The minutes from the start of the year zero to the minute of an instant. -/
def minutes (i : Instant) : Int := 1440 * i.date.number + i.minute

/-- Minutes that lie in the range of the calendar. -/
def InRange (n : Int) : Prop := Date.InRange (n / 1440)

instance : DecidablePred InRange := fun n => inferInstanceAs (Decidable (Date.InRange (n / 1440)))

theorem inRange_minutes (i : Instant) : InRange i.minutes := by
  have hminute := i.minute_lt
  have hday : i.minutes / 1440 = i.date.number := by
    rw [minutes]
    omega
  rw [InRange, hday]
  exact i.date.inRange_number

/-- **An instant is its minute, its second and its nanosecond.**  A leap second belongs to the minute
that it ends, and is none of the seconds of the next one. -/
theorem ext_minutes {i j : Instant} (hminutes : i.minutes = j.minutes)
    (hsecond : i.second = j.second) (hnanosecond : i.nanosecond = j.nanosecond) : i = j := by
  have hi := i.minute_lt
  have hj := j.minute_lt
  rw [minutes, minutes] at hminutes
  have hdate : i.date = j.date := Date.number_inj (by omega)
  have hminute : i.minute = j.minute := by
    rw [hdate] at hminutes
    omega
  cases i
  cases j
  subst hdate hminute hsecond hnanosecond
  rfl

theorem isAt_shiftDay (d : Date) {days : Int} (h : -1 ≤ days ∧ days ≤ 1) :
    Date.IsAt (shiftDay d days) (d.number + days) := by
  rw [shiftDay]
  split
  · have hdays : days = -1 := by omega
    exact hdays ▸ d.isAt_previous?
  · split
    · have hdays : days = 1 := by omega
      exact hdays ▸ d.isAt_next?
    · have hdays : days = 0 := by omega
      rw [hdays, Int.add_zero]
      rfl

/-- **The instant of a local time is as many minutes away from it as the offset says**, with the
same second and nanosecond, and exists as long as its minutes are in range. -/
theorem ofLocal?_spec (civil : Instant) {ahead : Int} (h : -1440 < ahead ∧ ahead < 1440) :
    match civil.ofLocal? ahead with
    | some i => i.minutes = civil.minutes - ahead ∧ i.second = civil.second ∧
        i.nanosecond = civil.nanosecond
    | none => ¬ InRange (civil.minutes - ahead) := by
  have hminute := civil.minute_lt
  have hshift := isAt_shiftDay civil.date
    (show -1 ≤ ((civil.minute : Int) - ahead) / 1440 ∧
      ((civil.minute : Int) - ahead) / 1440 ≤ 1 by omega)
  have hday : (civil.minutes - ahead) / 1440 =
      civil.date.number + ((civil.minute : Int) - ahead) / 1440 := by
    rw [minutes]
    omega
  rw [ofLocal?]
  cases hdate : shiftDay civil.date (((civil.minute : Int) - ahead) / 1440) with
  | none =>
    rw [hdate] at hshift
    rw [Option.map_none]
    show ¬ Date.InRange ((civil.minutes - ahead) / 1440)
    rw [hday]
    exact hshift
  | some date =>
    rw [hdate] at hshift
    rw [Option.map_some]
    refine ⟨?_, rfl, rfl⟩
    have hnumber : date.number = _ := hshift
    show 1440 * date.number + ((((civil.minute : Int) - ahead) % 1440).toNat : Int) = _
    rw [hnumber, minutes]
    omega

end Instant
end Roster
