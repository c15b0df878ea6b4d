import Roster.Calendar.Timestamp
import Roster.Proofs.Text.Digits

/-!
# Written timestamps are read back

The writer of timestamps has one form for every instant, and the reader, which is more lenient than
that, gives the same instant back.

* `readNumber_digits` — a number is read up to its last digit.
* `readYear_written`, `readField_padded`, `readFraction_written` — the fields, in front of what
  follows them in a timestamp.
* `readFields_write` — the whole text, for every instant: years with a sign and with more than four
  digits, fractions of each width, and leap seconds.
* `read_write` — the instant.
-/

set_option autoImplicit false

namespace Roster
namespace Timestamp

open Text (isDigit isBlank spelled padded StopsDigits)

/-! ## Numbers -/

/-- **Digits are read to their end**: to the last one that there is, or to the last one that may be
read. -/
theorem readNumber_digits {width : Option Nat} {ds r : List Char} (hne : ds ≠ [])
    (hds : ∀ d ∈ ds, isDigit d = true) (hwidth : ∀ w ∈ width, ds.length ≤ w)
    (hr : width = some ds.length ∨ StopsDigits r) :
    readNumber width (ds ++ r) = .ok (spelled 0 ds, r) := by
  obtain ⟨d, rest, rfl⟩ := List.exists_cons_of_ne_nil hne
  cases width with
  | none =>
    have hstop : StopsDigits r := by simpa using hr
    simp only [readNumber, Text.takeWhile_digits hds hstop]
    exact congrArg (fun left => Except.ok (_, left)) List.drop_left
  | some w =>
    have hstop : (d :: rest).length = w ∨ StopsDigits r := by simpa [eq_comm] using hr
    simp only [readNumber, Text.takeWhile_take_digits hds (hwidth w rfl) hstop]
    exact congrArg (fun left => Except.ok (_, left)) List.drop_left

/-- A number with zeros in front is read back. -/
theorem readNumber_padded {width : Nat} {limit : Option Nat} {n : Nat} {r : List Char}
    (hlimit : ∀ w ∈ limit, (padded width n).length ≤ w)
    (hr : limit = some (padded width n).length ∨ StopsDigits r) :
    readNumber limit (padded width n ++ r) = .ok (n, r) := by
  have h := readNumber_digits (Text.padded_ne_nil width n)
    (fun _ hd => Text.isDigit_of_mem_padded hd) hlimit hr
  rwa [Text.spelled_padded] at h

/-- A number that fills the width it is read in is read back, whatever follows. -/
theorem readNumber_full {width n : Nat} (hpos : 0 < width) (hn : n < Nat.pow 10 width)
    (r : List Char) : readNumber (some width) (padded width n ++ r) = .ok (n, r) := by
  have hlength : (padded width n).length = width := Text.length_padded hpos hn
  exact readNumber_padded (by simp [hlength]) (Or.inl (by rw [hlength]))

/-- Behind a sign a number may have any number of digits. -/
theorem readNumber_none_padded (width n : Nat) {r : List Char} (hr : StopsDigits r) :
    readNumber none (padded width n ++ r) = .ok (n, r) :=
  readNumber_padded (by simp) (Or.inr hr)

/-! ## Marks and fields -/

theorem not_isBlank_of_isDigit {d : Char} (h : isDigit d = true) : isBlank d = false := by
  have hrange := Text.isDigit_iff.mp h
  rw [Bool.eq_false_iff]
  intro hblank
  rw [isBlank, Text.RangeTable.contains_iff] at hblank
  obtain ⟨range, hmem, hlow, hhigh⟩ := hblank
  simp only [Text.blankRanges, List.mem_cons, List.not_mem_nil, or_false] at hmem
  rcases hmem with rfl | rfl | rfl | rfl | rfl | rfl | rfl | rfl | rfl | rfl <;> omega

/-- Nothing is passed over in front of what is not blank. -/
theorem dropBlanks_cons {c : Char} (h : isBlank c = false) (r : List Char) :
    Text.dropBlanks (c :: r) = c :: r := by
  rw [Text.dropBlanks, List.dropWhile_cons_of_neg (Bool.eq_false_iff.mp h)]

theorem dropBlanks_padded (width n : Nat) (r : List Char) :
    Text.dropBlanks (padded width n ++ r) = padded width n ++ r := by
  obtain ⟨d, rest, hd⟩ := List.exists_cons_of_ne_nil (Text.padded_ne_nil width n)
  have hdigit : isDigit d = true := Text.isDigit_of_mem_padded (hd ▸ List.mem_cons_self)
  rw [hd, List.cons_append, dropBlanks_cons (not_isBlank_of_isDigit hdigit)]

/-- A mark is found where it stands. -/
theorem readMark_cons {mark : Char} (h : isBlank mark = false) (r : List Char) :
    readMark mark (mark :: r) = .ok r := by
  simp only [readMark, dropBlanks_cons h, if_true]

/-- A field of two digits is read back if it is in range. -/
theorem readField_padded {least greatest n : Nat} (hleast : least ≤ n) (hgreatest : n ≤ greatest)
    (hwidth : n < 100) (r : List Char) :
    readField least greatest (padded 2 n ++ r) = .ok (n, r) := by
  rw [readField, dropBlanks_padded, readNumber_full (by decide) hwidth]
  exact if_pos ⟨hleast, hgreatest⟩

/-! ## The year -/

theorem readYear_padded {n : Nat} (hn : n ≤ 9999) (r : List Char) :
    readYear (padded 4 n ++ r) = .ok (n, r) := by
  rw [readYear, dropBlanks_padded]
  split
  · exact absurd ‹_› (Text.padded_append_ne_cons (by decide))
  · exact absurd ‹_› (Text.padded_append_ne_cons (by decide))
  · rw [readNumber_full (by decide) (Nat.lt_succ_of_le hn)]
    rfl

/-- **A year is read back**, with its sign if it has one. -/
theorem readYear_written {year : Int} (hfirst : Date.firstYear ≤ year)
    (hlast : year ≤ Date.lastYear) {r : List Char} (hr : StopsDigits r) :
    readYear (writtenYear year ++ r) = .ok (year, r) := by
  rw [Date.firstYear] at hfirst
  rw [Date.lastYear] at hlast
  rw [writtenYear]
  split
  · rename_i hnegative
    have hfits : ¬ 2147483648 < year.natAbs := by omega
    have hyear : -(year.natAbs : Int) = year := by omega
    rw [List.cons_append, readYear, dropBlanks_cons (by decide)]
    simp only [readNumber_none_padded _ _ hr, bind, Except.bind, if_neg hfits, hyear]
  · rename_i hnegative
    have hyear : (year.natAbs : Int) = year := by omega
    split
    · rename_i hshort
      rw [readYear_padded (by omega), hyear]
    · have hfits : ¬ 2147483647 < year.natAbs := by omega
      rw [List.cons_append, readYear, dropBlanks_cons (by decide)]
      simp only [readNumber_none_padded _ _ hr, bind, Except.bind, if_neg hfits, hyear]

/-! ## The fraction of a second -/

/-- A fraction of `k` digits counts units of that size. -/
theorem readFraction_digits {k n : Nat} (hpos : 0 < k) (hk : k ≤ 9) (hn : n < Nat.pow 10 k)
    {r : List Char} (hr : StopsDigits r) :
    readFraction ('.' :: (padded k n ++ r)) = .ok (n * Nat.pow 10 (9 - k), r) := by
  have hlength : (padded k n).length = k := Text.length_padded hpos hn
  have hnumber : readNumber (some 9) (padded k n ++ r) = .ok (n, r) :=
    readNumber_padded (by simpa [hlength] using hk) (Or.inr hr)
  have hwidth : (padded k n ++ r).length - r.length = k := by
    rw [List.length_append, hlength]
    omega
  rw [readFraction]
  simp only [hnumber, bind, Except.bind, hwidth, Text.afterDigits_eq_self hr]

/-- **A fraction is read back**, whichever of the four widths it has. -/
theorem readFraction_written {nanosecond : Nat} (h : nanosecond < 1000000000) (r : List Char) :
    readFraction (writtenFraction nanosecond ++ 'Z' :: r) = .ok (nanosecond, 'Z' :: r) := by
  have hr : StopsDigits ('Z' :: r) := rfl
  rw [writtenFraction]
  split
  · rename_i hzero
    rw [hzero]
    rfl
  · split
    · have hfits : nanosecond / 1000000 < 1000 := by omega
      have hexact : nanosecond / 1000000 * 1000000 = nanosecond := by omega
      rw [List.cons_append, readFraction_digits (by decide) (by decide) hfits hr]
      exact congrArg (fun n => Except.ok (n, _)) hexact
    · split
      · have hfits : nanosecond / 1000 < 1000000 := by omega
        have hexact : nanosecond / 1000 * 1000 = nanosecond := by omega
        rw [List.cons_append, readFraction_digits (by decide) (by decide) hfits hr]
        exact congrArg (fun n => Except.ok (n, _)) hexact
      · rw [List.cons_append, readFraction_digits (by decide) (by decide) h hr]
        exact congrArg (fun n => Except.ok (n, _)) (Nat.mul_one nanosecond)

/-! ## Whole timestamps -/

/-- The fields of an instant in universal time. -/
def fieldsOf (i : Instant) : Fields where
  year := i.date.year
  month := i.date.month
  day := i.date.day
  hour := i.minute / 60
  minute := i.minute % 60
  second := i.second
  nanosecond := i.nanosecond
  offset := 0

/-- **The fields of a written instant are read back.** -/
theorem readFields_write (i : Instant) : readFields (write i) = .ok (fieldsOf i) := by
  obtain ⟨⟨hfirst, hlast⟩, ⟨hmonth, hmonth'⟩, hday, hday'⟩ := i.date.valid
  have hday31 : i.date.day ≤ 31 := Nat.le_trans hday' (Date.lastDay_le _ _)
  have hminute := i.minute_lt
  have hsecond := i.second_le
  have hyear (r : List Char) : readYear (writtenYear i.date.year ++ '-' :: r) = _ :=
    readYear_written hfirst hlast rfl
  have hmonths := readField_padded hmonth hmonth' (by omega)
  have hdays := readField_padded hday hday31 (by omega)
  have hhours := readField_padded (Nat.zero_le (i.minute / 60)) (show _ ≤ 23 by omega) (by omega)
  have hminutes := readField_padded (Nat.zero_le (i.minute % 60)) (show _ ≤ 59 by omega) (by omega)
  have hseconds := readField_padded (Nat.zero_le i.second) hsecond (by omega)
  have hfraction := readFraction_written i.nanosecond_lt []
  have hdash (r : List Char) : readMark '-' ('-' :: r) = .ok r := readMark_cons (by decide) r
  have hcolon (r : List Char) : readMark ':' (':' :: r) = .ok r := readMark_cons (by decide) r
  have hgap (r : List Char) : readGap ('T' :: r) = .ok r := rfl
  simp only [readFields, write, List.append_assoc, List.cons_append, bind, Except.bind, hyear,
    hmonths, hdays, hhours, hminutes, hseconds, hfraction, hdash, hcolon, hgap]
  rfl

/-- The fields of an instant name it. -/
theorem toInstant_fieldsOf (i : Instant) : (fieldsOf i).toInstant = .ok i := by
  have hdate : Date.of? i.date.year i.date.month i.date.day = some i.date :=
    Date.of?_eq_some_iff.mpr ⟨rfl, rfl, rfl⟩
  have hclock : 60 * (i.minute / 60) + i.minute % 60 = i.minute := Nat.div_add_mod i.minute 60
  have hvalid : i.minute < 1440 ∧ i.second ≤ 60 ∧ i.nanosecond < 1000000000 ∧
      (0 : Int).natAbs < 1440 :=
    ⟨i.minute_lt, i.second_le, i.nanosecond_lt, by decide⟩
  simp only [Fields.toInstant, fieldsOf, hdate, hclock]
  rw [dif_pos hvalid, Instant.ofLocal?_zero i]

/-- **A written instant is read back.** -/
theorem read_write (i : Instant) : read (write i) = .ok i := by
  rw [read, readFields_write]
  exact toInstant_fieldsOf i

end Timestamp
end Roster
