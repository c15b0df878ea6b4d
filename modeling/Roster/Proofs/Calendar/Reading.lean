import Mathlib.Logic.Basic
import Roster.Proofs.Calendar.LocalTime

/-!
# Reading local times

The reader finds the numbers of every text that spells a local time, and gives the moment that they
name if they name one.

* `readYear_spelled`, `readField_spelled`, `readMark_spelled`, `readFraction_spelled` and
  `readOffset_spelled` — one equation for each part: it is read to its end, and its range is checked.
* `readFields_spelled` — the whole text: either all numbers, or a range is left.
* `read_spelled` — the moment, and that there is one exactly if the numbers are in range.
-/

set_option autoImplicit false

namespace Roster

namespace Timestamp

open LocalTime (Blanks Figures Indented SpellsField SpellsFraction SpellsOffset SpellsOffsetTime
  SpellsYear)
open Text (isBlank isDigit spelled StopsDigits)

variable {r s : List Char}

theorem readNumber_figures {width : Option Nat} {n : Nat} {ds : List Char} (h : Figures n ds)
    (hwidth : ∀ w ∈ width, ds.length ≤ w) (hr : StopsDigits r) :
    readNumber width (ds ++ r) = .ok (n, r) := by
  rw [readNumber_digits h.ne_nil h.digits hwidth (.inr hr), h.spelled]

/-! ## Blanks in front -/

/-- A text that starts with a character of a kind. -/
def StartsWith (p : Char → Bool) (s : List Char) : Prop := ∃ c t, s = c :: t ∧ p c = true

theorem dropBlanks_append {b : List Char} (hb : Blanks b) {w : List Char}
    (hw : StartsWith (!isBlank ·) w) (r : List Char) :
    Text.dropBlanks (b ++ w ++ r) = w ++ r := by
  obtain ⟨c, t, rfl, hc⟩ := hw
  rw [List.append_assoc, Text.dropBlanks, List.dropWhile_append_of_pos hb]
  exact dropBlanks_cons (by simpa using hc) (t ++ r)

theorem startsWith_digit {n : Nat} {ds : List Char} (h : Figures n ds) : StartsWith isDigit ds := by
  obtain ⟨d, t, rfl⟩ := List.exists_cons_of_ne_nil h.ne_nil
  exact ⟨d, t, rfl, h.digits d List.mem_cons_self⟩

theorem StartsWith.imp {p q : Char → Bool} (hpq : ∀ c, p c = true → q c = true)
    (h : StartsWith p s) : StartsWith q s := by
  obtain ⟨c, t, rfl, hc⟩ := h
  exact ⟨c, t, rfl, hpq c hc⟩

theorem StartsWith.append_ne_cons {p : Char → Bool} (h : StartsWith p s) {c : Char}
    (hc : p c = false) (u : List Char) : s ++ r ≠ c :: u := by
  obtain ⟨d, t, rfl, hd⟩ := h
  intro heq
  rw [(List.cons.inj heq).1, hc] at hd
  exact Bool.noConfusion hd

theorem not_blank_of_digit (c : Char) (h : isDigit c = true) : (!isBlank c) = true := by
  rw [not_isBlank_of_isDigit h]
  rfl

/-! ## The parts -/

/-- **A year is read with its sign**, and refused at once if it does not fit 32 bits. -/
theorem readYear_spelled {year : Int} (h : Indented (SpellsYear year) s) (hr : StopsDigits r) :
    readYear (s ++ r) =
      if -2147483648 ≤ year ∧ year ≤ 2147483647 then .ok (year, r) else .error .outOfRange := by
  obtain ⟨b, w, hb, hw, rfl⟩ := h
  rw [readYear]
  cases hw with
  | @plain n _ hds hlength =>
    have hstart := startsWith_digit hds
    have hn : n < Nat.pow 10 w.length := by
      rw [← hds.spelled]
      exact Text.spelled_lt hds.digits
    have hsmall : Nat.pow 10 w.length ≤ Nat.pow 10 4 := Nat.pow_le_pow_right (by decide) hlength
    have hfits : -2147483648 ≤ (n : Int) ∧ (n : Int) ≤ 2147483647 := by
      have hten : Nat.pow 10 4 = 10000 := rfl
      omega
    rw [dropBlanks_append hb (hstart.imp not_blank_of_digit), if_pos hfits]
    split
    · exact absurd ‹_› (hstart.append_ne_cons (by decide) _)
    · exact absurd ‹_› (hstart.append_ne_cons (by decide) _)
    · rw [readNumber_figures hds (by simpa using hlength) hr]
      rfl
  | @plus n ds hds =>
    have hnumber : readNumber none (ds ++ r) = .ok (n, r) := readNumber_figures hds (by simp) hr
    rw [dropBlanks_append hb ⟨'+', ds, rfl, by decide⟩, List.cons_append]
    simp only [hnumber, bind, Except.bind]
    grind
  | @minus n ds hds =>
    have hnumber : readNumber none (ds ++ r) = .ok (n, r) := readNumber_figures hds (by simp) hr
    rw [dropBlanks_append hb ⟨'-', ds, rfl, by decide⟩, List.cons_append]
    simp only [hnumber, bind, Except.bind]
    grind

/-- **A field is read and its range is checked.** -/
theorem readField_spelled {least greatest n : Nat} (h : Indented (SpellsField n) s)
    (hr : StopsDigits r) :
    readField least greatest (s ++ r) =
      if least ≤ n ∧ n ≤ greatest then .ok (n, r) else .error .outOfRange := by
  obtain ⟨b, w, hb, ⟨hfigures, hlength⟩, rfl⟩ := h
  rw [readField, dropBlanks_append hb ((startsWith_digit hfigures).imp not_blank_of_digit),
    readNumber_figures hfigures (by simpa using hlength) hr]
  rfl

/-- **A mark is read.** -/
theorem readMark_spelled {mark : Char} (h : Indented (· = [mark]) s) (hmark : isBlank mark = false)
    (r : List Char) : readMark mark (s ++ r) = .ok r := by
  obtain ⟨b, w, hb, rfl, rfl⟩ := h
  rw [readMark, dropBlanks_append hb ⟨mark, [], rfl, by simp [hmark]⟩]
  exact if_pos rfl

/-- **A fraction of any length is read**, and cut to nanoseconds. -/
theorem readFraction_spelled {fraction places : Nat} (h : SpellsFraction fraction places s)
    (hr : StopsDigits r) (hpoint : r.head? ≠ some '.') :
    readFraction (s ++ r) =
      .ok (fraction * Nat.pow 10 9 / Nat.pow 10 places, r) := by
  cases h with
  | none =>
    rw [readFraction.eq_def]
    split
    · rename_i heq
      rw [List.nil_append] at heq
      rw [heq] at hpoint
      exact absurd rfl hpoint
    · rfl
  | @digits _ ds hds =>
    -- the first nine digits are read as a number, and the others are passed over
    have htake : ds.take 9 ≠ [] := by
      simpa using hds.ne_nil
    have hdigits : ∀ d ∈ ds.take 9, isDigit d = true := fun d hd =>
      hds.digits d (List.mem_of_mem_take hd)
    have hdrop : ∀ d ∈ ds.drop 9, isDigit d = true := fun d hd =>
      hds.digits d (List.mem_of_mem_drop hd)
    have hsplit : ds ++ r = ds.take 9 ++ (ds.drop 9 ++ r) := by
      rw [← List.append_assoc, List.take_append_drop]
    have hstop : some 9 = some (ds.take 9).length ∨ StopsDigits (ds.drop 9 ++ r) := by
      rcases Nat.le_total ds.length 9 with hshort | hlong
      · rw [List.drop_eq_nil_of_le hshort]
        exact .inr hr
      · exact .inl (by rw [List.length_take_of_le hlong])
    have hnumber : readNumber (some 9) (ds ++ r) =
        .ok (spelled 0 (ds.take 9), ds.drop 9 ++ r) := by
      rw [hsplit]
      refine readNumber_digits htake hdigits ?_ hstop
      rintro w ⟨⟩
      exact List.length_take_le 9 ds
    have hwidth : (ds ++ r).length - (ds.drop 9 ++ r).length = (ds.take 9).length := by
      rw [hsplit, List.length_append, Nat.add_sub_cancel]
    rw [List.cons_append, readFraction]
    simp only [hnumber, bind, Except.bind, hwidth, Text.afterDigits_append hdrop hr]
    rw [Text.spelled_take_nine hds.digits, hds.spelled]

theorem readPair_digits {a b : Char} (ha : isDigit a = true) (hb : isDigit b = true)
    (r : List Char) : readPair (a :: b :: r) = .ok ((a, b), r) := by
  have hlong : ¬ Text.byteLength (a :: b :: r) < 2 := by
    have ha := a.utf8Size_pos
    have hb := b.utf8Size_pos
    rw [Text.byteLength_cons, Text.byteLength_cons]
    omega
  rw [readPair, if_neg hlong]
  exact if_pos ⟨ha, hb⟩

/-- Two digits spell more than fifty-nine exactly if the first is more than five. -/
theorem spelled_pair_le_iff {c d : Char} (hc : isDigit c = true) (hd : isDigit d = true) :
    spelled 0 [c, d] ≤ 59 ↔ ¬ '5' < c := by
  have hd := Text.digitValue_lt hd
  have hrange := Text.isDigit_iff.mp hc
  have hfive : '5' < c ↔ 0x35 < c.toNat := by
    rw [Char.lt_def, UInt32.lt_iff_toNat_lt]
    rfl
  have hspelled : spelled 0 [c, d] = 10 * (c.toNat - 0x30) + Text.digitValue d := by
    rw [Text.spelled_cons, Text.spelled_cons, Text.spelled_nil, Nat.mul_zero, Nat.zero_add,
      Text.digitValue.eq_def c]
  rw [hspelled, hfive]
  omega

/-- **The time of an offset is read**, and its minutes are checked. -/
theorem readOffsetTime_spelled {hours minutes : Nat} (h : SpellsOffsetTime hours minutes s)
    (r : List Char) :
    readOffsetTime (s ++ r) =
      if minutes ≤ 59 then .ok (60 * hours + minutes, r) else .error .outOfRange := by
  obtain ⟨hhours, hgap, hminutes⟩ := h
  rename_i a b c d gap
  obtain ⟨ha, hb, -⟩ : isDigit a = true ∧ isDigit b = true ∧ _ := by
    simpa only [List.forall_mem_cons] using hhours.digits
  obtain ⟨hc, hd, -⟩ : isDigit c = true ∧ isDigit d = true ∧ _ := by
    simpa only [List.forall_mem_cons] using hminutes.digits
  have hcolon : c ≠ ':' := by
    rintro rfl
    exact absurd hc (by decide)
  have hstop : ¬ isOffsetGap c = true := by
    simp [isOffsetGap, hcolon, not_isBlank_of_isDigit hc]
  have hdrop : (gap ++ c :: d :: r).dropWhile isOffsetGap = c :: d :: r := by
    rw [List.dropWhile_append_of_pos, List.dropWhile_cons_of_neg hstop]
    intro g hg
    simpa [isOffsetGap] using hgap g hg
  have hle : minutes ≤ 59 ↔ ¬ '5' < c := by
    rw [← hminutes.spelled]
    exact spelled_pair_le_iff hc hd
  rw [List.cons_append, List.cons_append, List.append_assoc, readOffsetTime]
  simp only [readPair_digits ha hb, List.cons_append, List.nil_append, hdrop,
    readPair_digits hc hd, bind, Except.bind, hle, hhours.spelled, hminutes.spelled, ite_not]

/-- What does not start like universal time in words is none. -/
theorem not_words {c : Char} (h : c.toUpper ≠ 'U') (r : List Char) :
    ¬ ((c :: r).length ≥ 3 ∧ ((c :: r).take 3).map Char.toUpper = ['U', 'T', 'C']) := by
  rintro ⟨-, heq⟩
  rw [List.take_succ_cons, List.map_cons] at heq
  exact h (List.cons.inj heq).1

/-- Behind a sign the time of an offset is read. -/
theorem readOffset_sign {sign : Char} {behind : Bool} {hours minutes : Nat}
    (hsign : offsetSign? sign = some behind) (hword : sign.toUpper ≠ 'U')
    (hletter : ¬ (sign = 'Z' ∨ sign = 'z')) (h : SpellsOffsetTime hours minutes s)
    (r : List Char) :
    readOffset (sign :: s ++ r) =
      if minutes ≤ 59 then
        .ok (if behind then -(60 * hours + minutes : Int) else 60 * hours + minutes, r)
      else .error .outOfRange := by
  rw [List.cons_append, readOffset]
  simp only [if_neg (not_words hword _), if_neg hletter, hsign, readOffsetTime_spelled h]
  by_cases hminutes : minutes ≤ 59
  · rw [if_pos hminutes, if_pos hminutes]
    rfl
  · rw [if_neg hminutes, if_neg hminutes]
    rfl

/-- **An offset is read in all its forms**, and its minutes are checked. -/
theorem readOffset_spelled {behind : Bool} {hours minutes : Nat}
    (h : SpellsOffset behind hours minutes s) (r : List Char) :
    readOffset (s ++ r) =
      if minutes ≤ 59 then
        .ok (if behind then -(60 * hours + minutes : Int) else 60 * hours + minutes, r)
      else .error .outOfRange := by
  cases h with
  | words hu ht hc =>
    rcases hu with rfl | rfl <;> rcases ht with rfl | rfl <;> rcases hc with rfl | rfl <;> rfl
  | @letter z hz =>
    have hword : z.toUpper ≠ 'U' := by
      rcases hz with rfl | rfl <;> decide
    rw [List.cons_append, List.nil_append, readOffset]
    simp only [if_neg (not_words hword r), if_pos hz]
    rfl
  | ahead htime => exact readOffset_sign rfl (by decide) (by decide) htime r
  | behind hsign htime =>
    rcases hsign with rfl | rfl
    · exact readOffset_sign rfl (by decide) (by decide) htime r
    · exact readOffset_sign rfl (by decide) (by decide) htime r

/-! ## What follows a part -/

theorem stops_of_startsWith (h : StartsWith (!isDigit ·) s) (r : List Char) :
    StopsDigits (s ++ r) := by
  obtain ⟨c, t, rfl, hc⟩ := h
  simpa [StopsDigits] using hc

/-- What blanks and a form start with, a text starts with that has the form behind blanks. -/
theorem startsWith_indented {p : Char → Bool} {Form : List Char → Prop}
    (hblank : ∀ c, isBlank c = true → p c = true) (hform : ∀ w, Form w → StartsWith p w)
    (h : Indented Form s) : StartsWith p s := by
  obtain ⟨b, w, hb, hw, rfl⟩ := h
  cases b with
  | nil => exact hform w hw
  | cons c b => exact ⟨c, b ++ w, rfl, hblank c (hb c List.mem_cons_self)⟩

theorem not_digit_of_blank (c : Char) (h : isBlank c = true) : (!isDigit c) = true := by
  cases hdigit : isDigit c with
  | false => rfl
  | true => exact absurd h (Bool.eq_false_iff.mp (not_isBlank_of_isDigit hdigit))

theorem not_point_of_blank (c : Char) (h : isBlank c = true) : (c != '.') = true := by
  rw [bne_iff_ne]
  rintro rfl
  exact absurd h (by decide)

theorem stops_of_mark {mark : Char} (h : Indented (· = [mark]) s) (hmark : isDigit mark = false)
    (r : List Char) : StopsDigits (s ++ r) := by
  refine stops_of_startsWith (startsWith_indented not_digit_of_blank ?_ h) r
  rintro w rfl
  exact ⟨mark, [], rfl, by simp [hmark]⟩

theorem stops_of_fraction {fraction places : Nat} (h : SpellsFraction fraction places s)
    (hr : StopsDigits r) : StopsDigits (s ++ r) := by
  cases h with
  | none => exact hr
  | digits _ => rfl

/-- The characters that an offset may start with. -/
def offsetHeads : List Char := ['U', 'u', 'Z', 'z', '+', '-', '\u2212']

theorem startsWith_offset {behind : Bool} {hours minutes : Nat} {w : List Char}
    (h : SpellsOffset behind hours minutes w) {p : Char → Bool} (hp : offsetHeads.all p = true) :
    StartsWith p w := by
  have hhead {c : Char} {t : List Char} (hc : c ∈ offsetHeads) : StartsWith p (c :: t) :=
    ⟨c, t, rfl, List.all_eq_true.mp hp c hc⟩
  cases h with
  | words hu ht hc => exact hhead (by rcases hu with rfl | rfl <;> simp [offsetHeads])
  | letter hz => exact hhead (by rcases hz with rfl | rfl <;> simp [offsetHeads])
  | ahead htime => exact hhead (by simp [offsetHeads])
  | behind hsign htime => exact hhead (by rcases hsign with rfl | rfl <;> simp [offsetHeads])

/-- An offset is read from behind the blanks in front of it. -/
theorem readOffset_indented {behind : Bool} {hours minutes : Nat}
    (h : Indented (SpellsOffset behind hours minutes) s) (r : List Char) :
    readOffset (Text.dropBlanks (s ++ r)) =
      if minutes ≤ 59 then
        .ok (if behind then -(60 * hours + minutes : Int) else 60 * hours + minutes, r)
      else .error .outOfRange := by
  obtain ⟨b, w, hb, hw, rfl⟩ := h
  rw [dropBlanks_append hb (startsWith_offset hw (by decide)), readOffset_spelled hw]

theorem dropBlanks_blanks (h : Blanks s) : Text.dropBlanks s = [] := by
  rw [Text.dropBlanks, ← List.append_nil s, List.dropWhile_append_of_pos h]
  rfl

/-! ## Whole timestamps -/

/-- Whether the numbers are in the ranges that are looked at one by one while they are read. -/
def Plausible (t : LocalTime) : Prop :=
  (-2147483648 ≤ t.year ∧ t.year ≤ 2147483647) ∧ (1 ≤ t.month ∧ t.month ≤ 12) ∧
    (1 ≤ t.day ∧ t.day ≤ 31) ∧ (0 ≤ t.hour ∧ t.hour ≤ 23) ∧ (0 ≤ t.minute ∧ t.minute ≤ 59) ∧
    (0 ≤ t.second ∧ t.second ≤ 60) ∧ t.offsetMinutes ≤ 59

instance (t : LocalTime) : Decidable (Plausible t) :=
  inferInstanceAs (Decidable (_ ∧ _ ∧ _ ∧ _ ∧ _ ∧ _ ∧ _))

/-- The fields of a local time as the reader gives them. -/
def fieldsOfLocal (t : LocalTime) : Fields :=
  ⟨t.year, t.month, t.day, t.hour, t.minute, t.second, t.nanosecond, t.ahead⟩

theorem bind_ok {α β : Type} (a : α) (f : α → Except Refusal β) :
    ((.ok a : Except Refusal α) >>= f) = f a := rfl

theorem bind_ite {α β : Type} {c : Prop} [Decidable c] (a : α) (e : Refusal)
    (f : α → Except Refusal β) :
    ((if c then .ok a else .error e : Except Refusal α) >>= f) =
      if c then f a else .error e := by
  split <;> rfl

/-- **The numbers of a timestamp are read**, however it is spelled, if each is in its own range. -/
theorem readFields_spelled {t : LocalTime} (h : t.Spells s) :
    readFields s = if Plausible t then .ok (fieldsOfLocal t) else .error .outOfRange := by
  obtain ⟨hyear, hdash, hmonth, hdash', hday, hgap, hhour, hcolon, hminute, hcolon', hsecond,
    hfraction, hoffset, hblanks⟩ := h
  rename_i year dash month dash' day hour colon minute colon' second fraction offset blanks gap
  -- what stands behind the fraction starts neither with a digit nor with a point
  have hstart {p : Char → Bool} (hblank : ∀ c, isBlank c = true → p c = true)
      (hp : offsetHeads.all p = true) : StartsWith p offset :=
    startsWith_indented hblank (fun _ hw => startsWith_offset hw hp) hoffset
  have hstop : StopsDigits (offset ++ blanks) :=
    stops_of_startsWith (hstart not_digit_of_blank (by decide)) blanks
  have hpoint : (offset ++ blanks).head? ≠ some '.' := by
    obtain ⟨c, u, rfl, hc⟩ := hstart (p := (· != '.')) not_point_of_blank (by decide)
    simpa using hc
  have hstop' := stops_of_fraction hfraction hstop
  have hstop'' (r : List Char) : StopsDigits (gap :: r) := by
    rcases hgap with rfl | rfl | rfl <;> rfl
  -- each part, in front of those that follow it
  have hyears (r : List Char) : readYear (year ++ (dash ++ r)) = _ :=
    readYear_spelled hyear (stops_of_mark hdash (by decide) r)
  have hmonths (r : List Char) : readField 1 12 (month ++ (dash' ++ r)) = _ :=
    readField_spelled hmonth (stops_of_mark hdash' (by decide) r)
  have hdays (r : List Char) : readField 1 31 (day ++ gap :: r) = _ :=
    readField_spelled hday (hstop'' r)
  have hhours (r : List Char) : readField 0 23 (hour ++ (colon ++ r)) = _ :=
    readField_spelled hhour (stops_of_mark hcolon (by decide) r)
  have hminutes (r : List Char) : readField 0 59 (minute ++ (colon' ++ r)) = _ :=
    readField_spelled hminute (stops_of_mark hcolon' (by decide) r)
  have hseconds : readField 0 60 (second ++ (fraction ++ (offset ++ blanks))) = _ :=
    readField_spelled hsecond hstop'
  have hdashes := readMark_spelled hdash (by decide)
  have hdashes' := readMark_spelled hdash' (by decide)
  have hcolons := readMark_spelled hcolon (by decide)
  have hcolons' := readMark_spelled hcolon' (by decide)
  have hgaps (r : List Char) : readGap (gap :: r) = .ok r := if_pos hgap
  have hfractions := readFraction_spelled hfraction hstop hpoint
  have hoffsets : readOffset (Text.dropBlanks (offset ++ blanks)) = _ :=
    readOffset_indented hoffset blanks
  simp only [readFields, hyears, hmonths, hdays, hhours, hminutes, hseconds, hdashes, hdashes',
    hcolons, hcolons', hgaps, hfractions, hoffsets, bind_ite, bind_ok, dropBlanks_blanks hblanks]
  simp only [← ite_and]
  rfl

/-- Spelled fractions are less than a second. -/
theorem nanosecond_lt {t : LocalTime} (h : t.Spells s) : t.nanosecond < 1000000000 := by
  obtain ⟨-, -, -, -, -, -, -, -, -, -, -, hfraction, -, -⟩ := h
  have hsmall : t.fraction < Nat.pow 10 t.places := by
    generalize t.fraction = fraction, t.places = places at hfraction
    cases hfraction with
    | none => exact Nat.one_pos
    | digits hds =>
      rw [← hds.spelled]
      exact Text.spelled_lt hds.digits
  have hpos : 0 < Nat.pow 10 t.places := Nat.zero_lt_of_lt hsmall
  rw [LocalTime.nanosecond, Nat.div_lt_iff_lt_mul hpos, Nat.mul_comm]
  exact Nat.mul_lt_mul_of_pos_left hsmall (by decide)

theorem plausible_of_inRange {t : LocalTime} (h : t.InRange) : Plausible t := by
  obtain ⟨⟨⟨hfirst, hlast⟩, hmonth, hday, hday'⟩, ⟨hhour, hminute, hsecond⟩, ⟨-, hoffset⟩, -⟩ := h
  have hdays := Nat.le_trans hday' (Date.lastDay_le _ _)
  rw [Date.firstYear] at hfirst
  rw [Date.lastYear] at hlast
  exact ⟨by omega, hmonth, ⟨hday, hdays⟩, ⟨Nat.zero_le _, hhour⟩, ⟨Nat.zero_le _, hminute⟩,
    ⟨Nat.zero_le _, hsecond⟩, hoffset⟩

theorem toInstant_of_not_exists {f : Fields} (h : ¬ Date.Exists f.year f.month f.day) :
    f.toInstant = .error .outOfRange := by
  have hdate : Date.of? f.year f.month f.day = none := dif_neg h
  rw [Fields.toInstant, hdate]

/-- The time of fields whose day exists and whose time is one of a day. -/
def Fields.civil (f : Fields) (hdate : Date.Exists f.year f.month f.day)
    (htime : 60 * f.hour + f.minute < 1440 ∧ f.second ≤ 60 ∧ f.nanosecond < 1000000000) : Instant :=
  ⟨⟨f.year, f.month, f.day, hdate⟩, 60 * f.hour + f.minute, f.second, f.nanosecond, htime.1,
    htime.2.1, htime.2.2⟩

theorem toInstant_of_exists {f : Fields} (hdate : Date.Exists f.year f.month f.day)
    (htime : 60 * f.hour + f.minute < 1440 ∧ f.second ≤ 60 ∧ f.nanosecond < 1000000000) :
    f.toInstant =
      if f.offset.natAbs < 1440 then
        match (f.civil hdate htime).ofLocal? f.offset with
        | some i => .ok i
        | none => .error .impossible
      else .error .outOfRange := by
  have hof : Date.of? f.year f.month f.day = some ⟨f.year, f.month, f.day, hdate⟩ := dif_pos hdate
  obtain ⟨hminute, hsecond, hnano⟩ := htime
  rw [Fields.toInstant, hof]
  by_cases hoffset : f.offset.natAbs < 1440
  · rw [if_pos hoffset]
    exact dif_pos ⟨hminute, hsecond, hnano, hoffset⟩
  · rw [if_neg hoffset]
    exact dif_neg fun h => hoffset h.2.2.2

/-- **The moment of plausible numbers**: it is the one that they name, and there is one if they are
in range. -/
theorem toInstant_spec {t : LocalTime} (h : Plausible t) (hnano : t.nanosecond < 1000000000) :
    match (fieldsOfLocal t).toInstant with
    | .ok i => t.InRange ∧ t.Names i
    | .error _ => ¬ t.InRange := by
  obtain ⟨-, -, -, ⟨-, hhour⟩, ⟨-, hminute⟩, ⟨-, hsecond⟩, hoffset⟩ := h
  have hnatAbs : (fieldsOfLocal t).offset.natAbs = 60 * t.offsetHours + t.offsetMinutes :=
    t.natAbs_ahead
  by_cases hdate : Date.Exists t.year t.month t.day
  · have htime : 60 * t.hour + t.minute < 1440 ∧ t.second ≤ 60 ∧ t.nanosecond < 1000000000 :=
      ⟨by omega, hsecond, hnano⟩
    rw [toInstant_of_exists hdate htime]
    by_cases hhours : t.offsetHours ≤ 23
    · have hminutes : ((fieldsOfLocal t).civil hdate htime).minutes - (fieldsOfLocal t).offset =
          t.minutes := by
        show 1440 * Date.numberOf t.year t.month t.day + ((60 * t.hour + t.minute : Nat) : Int) -
          t.ahead = t.minutes
        rw [LocalTime.minutes]
        omega
      have hspec := ((fieldsOfLocal t).civil hdate htime).ofLocal?_spec
        (show -1440 < (fieldsOfLocal t).offset ∧ (fieldsOfLocal t).offset < 1440 by omega)
      rw [hminutes] at hspec
      rw [if_pos (show (fieldsOfLocal t).offset.natAbs < 1440 by omega)]
      cases hlocal : ((fieldsOfLocal t).civil hdate htime).ofLocal? (fieldsOfLocal t).offset with
      | none =>
        rw [hlocal] at hspec
        exact fun hrange => hspec hrange.universal
      | some i =>
        rw [hlocal] at hspec
        have hrange : t.InRange := ⟨hdate, ⟨hhour, hminute, hsecond⟩, ⟨hhours, hoffset⟩,
          hspec.1 ▸ i.inRange_minutes⟩
        exact ⟨hrange, hspec⟩
    · rw [if_neg (show ¬ (fieldsOfLocal t).offset.natAbs < 1440 by omega)]
      exact fun hrange => hhours hrange.offset.1
  · rw [toInstant_of_not_exists hdate]
    exact fun hrange => hdate hrange.date

/-- **A text that spells a local time is read as the moment that it names**, and refused exactly if
it names none. -/
theorem read_spelled {t : LocalTime} (h : t.Spells s) :
    match read s with
    | .ok i => t.InRange ∧ t.Names i
    | .error _ => ¬ t.InRange := by
  rw [read, readFields_spelled h]
  by_cases hplausible : Plausible t
  · rw [if_pos hplausible]
    exact toInstant_spec hplausible (nanosecond_lt h)
  · rw [if_neg hplausible]
    exact mt plausible_of_inRange hplausible

end Timestamp
end Roster
