import Roster.Proofs.Calendar.DayNumber
import Roster.Proofs.Calendar.Timestamp

/-!
# Local times and the ways of spelling them

What a timestamp says, before anybody asks whether there is such a time: a date and a time of day,
a fraction of a second with as many digits as it has, and how far local time is from universal time.

* `LocalTime` — the numbers that a timestamp spells, in any range.
* `LocalTime.InRange` — whether they name a moment, and `LocalTime.Names` — which one: the minute
  that is as far from the local one as the offset says, and the second and the nanosecond in it.
* `LocalTime.Spells` — the texts that spell the numbers, said without any reader: blanks in front of
  the fields and marks, fields of one or two digits, years with a sign and any number of digits,
  fractions of any length and the forms of an offset.
* `spells_write` — a timestamp as it is written spells its instant, in universal time.
-/

set_option autoImplicit false

namespace Roster

open Text (isBlank isDigit padded spelled)

/-- The numbers that a timestamp spells.  The fraction of the second is `fraction` units of the size
that `places` digits behind the point have. -/
structure LocalTime where
  year : Int
  month : Nat
  day : Nat
  hour : Nat
  minute : Nat
  second : Nat
  fraction : Nat
  places : Nat
  behind : Bool
  offsetHours : Nat
  offsetMinutes : Nat

namespace LocalTime

/-! ## The moment -/

/-- The whole nanoseconds of the fraction. -/
def nanosecond (t : LocalTime) : Nat := t.fraction * Nat.pow 10 9 / Nat.pow 10 t.places

/-- The minutes that local time is ahead of universal time. -/
def ahead (t : LocalTime) : Int :=
  if t.behind then -(60 * t.offsetHours + t.offsetMinutes : Int)
  else 60 * t.offsetHours + t.offsetMinutes

theorem natAbs_ahead (t : LocalTime) :
    t.ahead.natAbs = 60 * t.offsetHours + t.offsetMinutes := by
  rw [ahead]
  split <;> omega

/-- The minutes of universal time from the start of the year zero. -/
def minutes (t : LocalTime) : Int :=
  1440 * Date.numberOf t.year t.month t.day + 60 * t.hour + t.minute - t.ahead

/-- Whether the numbers name a moment: the day exists, the time of day and the offset do, and the
date is in range in universal time as well. -/
structure InRange (t : LocalTime) : Prop where
  date : Date.Exists t.year t.month t.day
  time : t.hour ≤ 23 ∧ t.minute ≤ 59 ∧ t.second ≤ 60
  offset : t.offsetHours ≤ 23 ∧ t.offsetMinutes ≤ 59
  universal : Instant.InRange t.minutes

instance (t : LocalTime) : Decidable t.InRange :=
  decidable_of_iff (Date.Exists t.year t.month t.day ∧
      (t.hour ≤ 23 ∧ t.minute ≤ 59 ∧ t.second ≤ 60) ∧
      (t.offsetHours ≤ 23 ∧ t.offsetMinutes ≤ 59) ∧ Instant.InRange t.minutes)
    ⟨fun ⟨hdate, htime, hoffset, huniversal⟩ => ⟨hdate, htime, hoffset, huniversal⟩,
      fun ⟨hdate, htime, hoffset, huniversal⟩ => ⟨hdate, htime, hoffset, huniversal⟩⟩

/-- The moment that the numbers name.  A leap second is the second sixty of its minute. -/
def Names (t : LocalTime) (i : Instant) : Prop :=
  i.minutes = t.minutes ∧ i.second = t.second ∧ i.nanosecond = t.nanosecond

/-- Whether two timestamps name the same moment. -/
def SameMoment (t u : LocalTime) : Prop :=
  t.minutes = u.minutes ∧ t.second = u.second ∧ t.nanosecond = u.nanosecond

instance (t u : LocalTime) : Decidable (t.SameMoment u) :=
  inferInstanceAs (Decidable (_ ∧ _ ∧ _))

/-- Moments are equal exactly if the timestamps that name them name the same one. -/
theorem Names.eq_iff {t u : LocalTime} {i j : Instant} (ht : t.Names i) (hu : u.Names j) :
    i = j ↔ t.SameMoment u := by
  obtain ⟨hminutes, hsecond, hnanosecond⟩ := ht
  obtain ⟨hminutes', hsecond', hnanosecond'⟩ := hu
  rw [SameMoment, ← hminutes, ← hsecond, ← hnanosecond, ← hminutes', ← hsecond', ← hnanosecond']
  constructor
  · rintro rfl
    exact ⟨rfl, rfl, rfl⟩
  · rintro ⟨hm, hs, hn⟩
    exact Instant.ext_minutes hm hs hn

/-! ## Spellings -/

/-- A text of nothing but blanks. -/
def Blanks (s : List Char) : Prop := ∀ c ∈ s, isBlank c = true

instance : DecidablePred Blanks := fun s =>
  decidable_of_iff (s.all isBlank = true) List.all_eq_true

/-- A text in a given form with blanks in front. -/
def Indented (Form : List Char → Prop) (s : List Char) : Prop :=
  ∃ b w, Blanks b ∧ Form w ∧ s = b ++ w

/-- Decimal digits, at least one, that spell a number; there may be zeros in front. -/
structure Figures (n : Nat) (ds : List Char) : Prop where
  ne_nil : ds ≠ []
  digits : ∀ d ∈ ds, isDigit d = true
  spelled : spelled 0 ds = n

instance (n : Nat) : DecidablePred (Figures n) := fun ds =>
  decidable_of_iff (ds ≠ [] ∧ ds.all isDigit = true ∧ Text.spelled 0 ds = n)
    ⟨fun ⟨hne, hdigits, hn⟩ => ⟨hne, List.all_eq_true.mp hdigits, hn⟩,
      fun ⟨hne, hdigits, hn⟩ => ⟨hne, List.all_eq_true.mpr hdigits, hn⟩⟩

/-- The ways of spelling a year: at most four digits, or a sign and any number of digits. -/
inductive SpellsYear : Int → List Char → Prop
  | plain {n : Nat} {ds : List Char} : Figures n ds → ds.length ≤ 4 → SpellsYear n ds
  | plus {n : Nat} {ds : List Char} : Figures n ds → SpellsYear n ('+' :: ds)
  | minus {n : Nat} {ds : List Char} : Figures n ds → SpellsYear (-n) ('-' :: ds)

/-- The ways of spelling another field of the date or the time. -/
def SpellsField (n : Nat) (ds : List Char) : Prop := Figures n ds ∧ ds.length ≤ 2

instance (n : Nat) : DecidablePred (SpellsField n) := fun ds =>
  inferInstanceAs (Decidable (Figures n ds ∧ ds.length ≤ 2))

/-- A fraction of a second: nothing, or a point and digits. -/
inductive SpellsFraction : Nat → Nat → List Char → Prop
  | none : SpellsFraction 0 0 []
  | digits {n : Nat} {ds : List Char} : Figures n ds → SpellsFraction n ds.length ('.' :: ds)

/-- Two digits for the hours of an offset, two for its minutes, and colons and blanks between
them. -/
inductive SpellsOffsetTime : Nat → Nat → List Char → Prop
  | pairs {hours minutes : Nat} {a b c d : Char} {gap : List Char} : Figures hours [a, b] →
      (∀ g ∈ gap, g = ':' ∨ isBlank g = true) → Figures minutes [c, d] →
      SpellsOffsetTime hours minutes (a :: b :: (gap ++ [c, d]))

/-- The ways of spelling an offset: universal time in words or by a letter, in any case, or a sign
and a time. -/
inductive SpellsOffset : Bool → Nat → Nat → List Char → Prop
  | words {u t c : Char} : u = 'U' ∨ u = 'u' → t = 'T' ∨ t = 't' → c = 'C' ∨ c = 'c' →
      SpellsOffset false 0 0 [u, t, c]
  | letter {z : Char} : z = 'Z' ∨ z = 'z' → SpellsOffset false 0 0 [z]
  | ahead {hours minutes : Nat} {s : List Char} : SpellsOffsetTime hours minutes s →
      SpellsOffset false hours minutes ('+' :: s)
  | behind {hours minutes : Nat} {sign : Char} {s : List Char} : sign = '-' ∨ sign = '\u2212' →
      SpellsOffsetTime hours minutes s → SpellsOffset true hours minutes (sign :: s)

/-- The texts that spell a local time. -/
inductive Spells (t : LocalTime) : List Char → Prop
  | parts {year dash month dash' day hour colon minute colon' second fraction offset blanks :
        List Char} {gap : Char} :
      Indented (SpellsYear t.year) year → Indented (· = ['-']) dash →
      Indented (SpellsField t.month) month → Indented (· = ['-']) dash' →
      Indented (SpellsField t.day) day → gap = 'T' ∨ gap = 't' ∨ gap = ' ' →
      Indented (SpellsField t.hour) hour → Indented (· = [':']) colon →
      Indented (SpellsField t.minute) minute → Indented (· = [':']) colon' →
      Indented (SpellsField t.second) second → SpellsFraction t.fraction t.places fraction →
      Indented (SpellsOffset t.behind t.offsetHours t.offsetMinutes) offset → Blanks blanks →
      Spells t (year ++ (dash ++ (month ++ (dash' ++ (day ++ gap :: (hour ++ (colon ++ (minute ++
        (colon' ++ (second ++ (fraction ++ (offset ++ blanks))))))))))))

/-! ## Written timestamps -/

theorem blanks_nil : Blanks [] := List.forall_mem_nil _

theorem indented_self {Form : List Char → Prop} {w : List Char} (h : Form w) : Indented Form w :=
  ⟨[], w, blanks_nil, h, rfl⟩

theorem figures_padded (width n : Nat) : Figures n (padded width n) :=
  ⟨Text.padded_ne_nil width n, fun _ => Text.isDigit_of_mem_padded, Text.spelled_padded width n⟩

theorem spellsField_padded {n : Nat} (h : n < 100) : Indented (SpellsField n) (padded 2 n) :=
  indented_self ⟨figures_padded 2 n, Nat.le_of_eq (Text.length_padded (by decide) h)⟩

theorem spellsYear_written (year : Int) : SpellsYear year (Timestamp.writtenYear year) := by
  rw [Timestamp.writtenYear]
  split
  · have hyear : -(year.natAbs : Int) = year := by omega
    have h := SpellsYear.minus (figures_padded 4 year.natAbs)
    rwa [hyear] at h
  · have hyear : (year.natAbs : Int) = year := by omega
    split
    · have hlength : (padded 4 year.natAbs).length = 4 :=
        Text.length_padded (by decide) (show year.natAbs < 10000 by omega)
      have h := SpellsYear.plain (figures_padded 4 year.natAbs) (Nat.le_of_eq hlength)
      rwa [hyear] at h
    · have h := SpellsYear.plus (figures_padded 4 year.natAbs)
      rwa [hyear] at h

/-- A written fraction spells its nanoseconds, whichever of the four widths it has. -/
theorem spellsFraction_written {nanosecond : Nat} (h : nanosecond < 1000000000) :
    ∃ fraction places, SpellsFraction fraction places (Timestamp.writtenFraction nanosecond) ∧
      fraction * Nat.pow 10 9 / Nat.pow 10 places = nanosecond := by
  have hdigits {k n : Nat} (hpos : 0 < k) (hn : n < Nat.pow 10 k) :
      SpellsFraction n k ('.' :: padded k n) := by
    have h := SpellsFraction.digits (figures_padded k n)
    rwa [Text.length_padded hpos hn] at h
  rw [Timestamp.writtenFraction]
  split
  · rename_i hzero
    exact ⟨0, 0, .none, hzero.symm⟩
  · split
    · refine ⟨_, 3, hdigits (by decide) (show nanosecond / 1000000 < 1000 by omega), ?_⟩
      show nanosecond / 1000000 * 1000000000 / 1000 = nanosecond
      omega
    · split
      · refine ⟨_, 6, hdigits (by decide) (show nanosecond / 1000 < 1000000 by omega), ?_⟩
        show nanosecond / 1000 * 1000000000 / 1000000 = nanosecond
        omega
      · refine ⟨_, 9, hdigits (by decide) h, ?_⟩
        show nanosecond * 1000000000 / 1000000000 = nanosecond
        omega

/-- The local time of an instant where universal time is kept, with a fraction of a second. -/
def ofInstant (i : Instant) (fraction places : Nat) : LocalTime where
  year := i.date.year
  month := i.date.month
  day := i.date.day
  hour := i.minute / 60
  minute := i.minute % 60
  second := i.second
  fraction := fraction
  places := places
  behind := false
  offsetHours := 0
  offsetMinutes := 0

theorem minutes_ofInstant (i : Instant) (fraction places : Nat) :
    (ofInstant i fraction places).minutes = i.minutes := by
  have hahead : (ofInstant i fraction places).ahead = 0 := rfl
  rw [minutes, hahead, Instant.minutes, Date.number]
  simp only [ofInstant]
  omega

/-- **A timestamp as it is written spells its instant**, in universal time. -/
theorem spells_write (i : Instant) :
    ∃ u : LocalTime, u.Spells (Timestamp.write i) ∧ u.Names i ∧ u.ahead = 0 := by
  obtain ⟨fraction, places, hfraction, hnanosecond⟩ := spellsFraction_written i.nanosecond_lt
  obtain ⟨-, ⟨-, hmonth⟩, -, hday⟩ := i.date.valid
  have hday' := Nat.le_trans hday (Date.lastDay_le _ _)
  have hminute := i.minute_lt
  have hsecond := i.second_le
  have hmonths := spellsField_padded (show i.date.month < 100 by omega)
  have hdays := spellsField_padded (show i.date.day < 100 by omega)
  have hhours := spellsField_padded (show i.minute / 60 < 100 by omega)
  have hminutes := spellsField_padded (show i.minute % 60 < 100 by omega)
  have hseconds := spellsField_padded (show i.second < 100 by omega)
  have hspells : (ofInstant i fraction places).Spells _ :=
    .parts (indented_self (spellsYear_written i.date.year)) (indented_self rfl) hmonths
      (indented_self rfl) hdays (.inl rfl) hhours (indented_self rfl) hminutes (indented_self rfl)
      hseconds hfraction (indented_self (.letter (.inl rfl))) blanks_nil
  refine ⟨ofInstant i fraction places, ?_,
    ⟨(minutes_ofInstant i fraction places).symm, rfl, hnanosecond.symm⟩, rfl⟩
  simpa [Timestamp.write] using hspells

end LocalTime
end Roster
