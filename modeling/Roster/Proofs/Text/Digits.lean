import Roster.Text.Basic

/-!
# Written numbers

A number that is written in decimal digits, with zeros in front or without, is spelled by these
digits.  A reader of digits stops where the digits do, so it finds them again in front of any text
that does not go on with a digit.

* `spelled_eq_add` — what digits spell, by place; `spelled_take_nine` for those of a fraction.
* `padded` — its digits, their number (`length_padded`) and what they spell (`spelled_padded`).
* `StopsDigits` — the texts that do not start with a digit, and the digits in front of one
  (`takeWhile_digits`, `takeWhile_take_digits`).
-/

set_option autoImplicit false

namespace Roster
namespace Text

/-! ## Digits -/

/-- The digits are ten characters in a row. -/
theorem isDigit_iff {c : Char} : isDigit c = true ↔ 0x30 ≤ c.toNat ∧ c.toNat ≤ 0x39 := by
  simp [isDigit, Char.le_def, UInt32.le_iff_toNat_le]

theorem digitValue_lt {d : Char} (h : isDigit d = true) : digitValue d < 10 := by
  have hrange := isDigit_iff.mp h
  rw [digitValue]
  omega

/-- A number in front of digits counts as many times ten as there are digits. -/
theorem spelled_eq_add (n : Nat) (ds : List Char) :
    spelled n ds = n * Nat.pow 10 ds.length + spelled 0 ds := by
  induction ds generalizing n with
  | nil => exact (Nat.mul_one n).symm
  | cons d ds ih =>
    have hpow : Nat.pow 10 (ds.length + 1) = 10 * Nat.pow 10 ds.length := Nat.mul_comm ..
    rw [spelled_cons, spelled_cons, ih, ih (10 * 0 + digitValue d), List.length_cons, hpow,
      Nat.mul_zero, Nat.zero_add, Nat.add_mul, Nat.mul_assoc, Nat.mul_left_comm n, Nat.add_assoc]

/-- Digits spell a number that has no more of them. -/
theorem spelled_lt {ds : List Char} (h : ∀ d ∈ ds, isDigit d = true) :
    spelled 0 ds < Nat.pow 10 ds.length := by
  induction ds with
  | nil => exact Nat.one_pos
  | cons d ds ih =>
    obtain ⟨hd, hds⟩ := List.forall_mem_cons.mp h
    have hvalue : digitValue d ≤ 9 := Nat.le_of_lt_succ (digitValue_lt hd)
    have hfirst := Nat.mul_le_mul_right (Nat.pow 10 ds.length) hvalue
    have hrest := ih hds
    have hpow : Nat.pow 10 (ds.length + 1) = Nat.pow 10 ds.length * 10 := rfl
    rw [spelled_cons, spelled_eq_add, List.length_cons, hpow, Nat.mul_zero, Nat.zero_add]
    omega

/-- The first digits of a number are what is left when the others are cut off. -/
theorem spelled_take {ds : List Char} (h : ∀ d ∈ ds, isDigit d = true) (k : Nat) :
    spelled 0 (ds.take k) = spelled 0 ds / Nat.pow 10 (ds.length - k) := by
  have hdrop : spelled 0 (ds.drop k) < Nat.pow 10 (ds.drop k).length :=
    spelled_lt fun d hd => h d (List.mem_of_mem_drop hd)
  have hsplit : spelled 0 ds =
      spelled 0 (ds.take k) * Nat.pow 10 (ds.drop k).length + spelled 0 (ds.drop k) := by
    rw [← spelled_eq_add, ← spelled_append, List.take_append_drop]
  have hpos : 0 < Nat.pow 10 (ds.drop k).length := Nat.zero_lt_of_lt hdrop
  rw [← List.length_drop, hsplit, Nat.mul_comm, Nat.mul_add_div hpos, Nat.div_eq_of_lt hdrop,
    Nat.add_zero]

/-- **Of a fraction, nine digits count**, with zeros behind where there are fewer. -/
theorem spelled_take_nine {ds : List Char} (h : ∀ d ∈ ds, isDigit d = true) :
    spelled 0 (ds.take 9) * Nat.pow 10 (9 - (ds.take 9).length) =
      spelled 0 ds * Nat.pow 10 9 / Nat.pow 10 ds.length := by
  rcases Nat.le_total ds.length 9 with hshort | hlong
  · have hpos : 0 < Nat.pow 10 ds.length := Nat.pow_pos (by decide)
    have hpow : Nat.pow 10 9 = Nat.pow 10 (9 - ds.length) * Nat.pow 10 ds.length :=
      (Nat.pow_sub_mul_pow 10 hshort).symm
    rw [List.take_of_length_le hshort, hpow, ← Nat.mul_assoc, Nat.mul_div_cancel _ hpos]
  · have hpos : 0 < Nat.pow 10 9 := by decide
    have hpow : Nat.pow 10 ds.length = Nat.pow 10 (ds.length - 9) * Nat.pow 10 9 :=
      (Nat.pow_sub_mul_pow 10 hlong).symm
    rw [spelled_take h, List.length_take_of_le hlong, hpow, Nat.mul_div_mul_right _ _ hpos]
    exact Nat.mul_one _

/-! ## Digits with zeros in front -/

theorem spelled_toDigits (n : Nat) : spelled 0 (Nat.toDigits 10 n) = n :=
  Nat.ofDigitChars_ten_toDigits

theorem spelled_replicate_zero (k n : Nat) : spelled n (List.replicate k '0') = Nat.pow 10 k * n :=
  Nat.ofDigitChars_replicate_zero

/-- Zeros in front do not change what digits spell. -/
theorem spelled_padded (width n : Nat) : spelled 0 (padded width n) = n := by
  rw [padded, spelled_append, spelled_replicate_zero, Nat.mul_zero, spelled_toDigits]

theorem isDigit_of_mem_toDigits {n : Nat} {d : Char} (h : d ∈ Nat.toDigits 10 n) :
    isDigit d = true :=
  Nat.isDigit_of_mem_toDigits (by decide) (by decide) h

theorem isDigit_of_mem_padded {width n : Nat} {d : Char} (h : d ∈ padded width n) :
    isDigit d = true := by
  rw [padded] at h
  rcases List.mem_append.mp h with hzero | hdigit
  · rw [(List.mem_replicate.mp hzero).2]
    rfl
  · exact isDigit_of_mem_toDigits hdigit

theorem padded_ne_nil (width n : Nat) : padded width n ≠ [] := by
  rw [padded]
  exact List.append_ne_nil_of_right_ne_nil _ Nat.toDigits_ne_nil

/-- A number that fits takes up exactly the width. -/
theorem length_padded {width n : Nat} (hpos : 0 < width) (h : n < Nat.pow 10 width) :
    (padded width n).length = width := by
  have hle : (Nat.toDigits 10 n).length ≤ width :=
    (Nat.length_toDigits_le_iff (by decide) hpos).mpr h
  rw [padded, List.length_append, List.length_replicate]
  omega

/-- A written number starts with neither a sign nor a mark. -/
theorem padded_append_ne_cons {width n : Nat} {c : Char} {r s : List Char}
    (hc : isDigit c = false) : padded width n ++ r ≠ c :: s := by
  intro heq
  obtain ⟨d, rest, hd⟩ := List.exists_cons_of_ne_nil (padded_ne_nil width n)
  have hdigit : isDigit d = true := isDigit_of_mem_padded (hd ▸ List.mem_cons_self)
  rw [hd, List.cons_append, List.cons.injEq] at heq
  rw [heq.1, hc] at hdigit
  exact Bool.noConfusion hdigit

/-- A number in decimal digits does not start with what is no digit. -/
theorem toDigits_append_ne_cons {n : Nat} {c : Char} {r s : List Char} (hc : isDigit c = false) :
    Nat.toDigits 10 n ++ r ≠ c :: s := by
  have hpadded : padded 0 n = Nat.toDigits 10 n := by
    rw [padded, Nat.zero_sub, List.replicate_zero, List.nil_append]
  rw [← hpadded]
  exact padded_append_ne_cons hc

/-! ## Digits in front of something else -/

/-- A text that does not start with a digit. -/
def StopsDigits : List Char → Prop
  | [] => True
  | c :: _ => isDigit c = false

theorem takeWhile_eq_nil {r : List Char} (h : StopsDigits r) : r.takeWhile isDigit = [] := by
  cases r with
  | nil => rfl
  | cons c r => rw [List.takeWhile_cons_of_neg (Bool.eq_false_iff.mp h)]

theorem afterDigits_eq_self {r : List Char} (h : StopsDigits r) : afterDigits r = r := by
  cases r with
  | nil => rfl
  | cons c r => rw [afterDigits, List.dropWhile_cons_of_neg (Bool.eq_false_iff.mp h)]

/-- A reader of digits takes all of them. -/
theorem takeWhile_digits {ds r : List Char} (hds : ∀ d ∈ ds, isDigit d = true)
    (hr : StopsDigits r) : (ds ++ r).takeWhile isDigit = ds := by
  rw [List.takeWhile_append_of_pos hds, takeWhile_eq_nil hr, List.append_nil]

/-- What is left behind the digits starts with none. -/
theorem afterDigits_append {ds r : List Char} (hds : ∀ d ∈ ds, isDigit d = true)
    (hr : StopsDigits r) : afterDigits (ds ++ r) = r := by
  rw [afterDigits, List.dropWhile_append_of_pos hds]
  exact afterDigits_eq_self hr

/-- A reader of at most `width` digits takes all of them if there are no more, or if there are as
many as it may take, whatever follows then. -/
theorem takeWhile_take_digits {width : Nat} {ds r : List Char}
    (hds : ∀ d ∈ ds, isDigit d = true) (hwidth : ds.length ≤ width)
    (hr : ds.length = width ∨ StopsDigits r) :
    ((ds ++ r).take width).takeWhile isDigit = ds := by
  rw [List.take_append, List.take_of_length_le hwidth]
  refine takeWhile_digits hds ?_
  rcases hr with hfull | hstop
  · rw [hfull, Nat.sub_self, List.take_zero]
    trivial
  · cases r with
    | nil =>
      rw [List.take_nil]
      trivial
    | cons c r =>
      cases width - ds.length with
      | zero => trivial
      | succ k => exact hstop

end Text
end Roster
