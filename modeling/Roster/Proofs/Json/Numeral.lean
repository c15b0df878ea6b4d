import Roster.Proofs.Json.Spelling
import Roster.Proofs.Text.Digits

/-!
# Numbers are read exactly or not at all

A number is kept as a natural one exactly if it is written in digits alone and fits 64 bits.  No
other number is taken for a natural one, so nothing is rounded or wrapped on the way.

* `skipNumber_numeral` — every number is passed over to its end, whatever its range.
* `gather_of_le` and `spelled_of_gather` — significands with room for all digits.
* `readNumber_toDigits` and `eq_toDigits_of_readNumber` — which numbers are natural ones.
* `readNatural_toDigits` and `eq_toDigits_of_readNatural` — the same of any value that stands where
  a natural number is expected.
-/

set_option autoImplicit false

namespace Roster
namespace Json

open Text (isDigit digitValue leadingDigits afterDigits spelled StopsDigits)

/-! ## Digits -/

theorem leadingDigits_append {ds r : List Char} (hds : ∀ d ∈ ds, isDigit d = true)
    (hr : StopsDigits r) : leadingDigits (ds ++ r) = ds := Text.takeWhile_digits hds hr

theorem not_head_of_stopsDigits {r : List Char} (h : StopsDigits r) :
    ¬ (r.head?.any isDigit) = true := by
  cases r with
  | nil => exact Bool.false_ne_true
  | cons c r => exact Bool.eq_false_iff.mp h

/-- What follows a value is neither a digit nor a mark that a number could go on with. -/
theorem FollowsValue.exists_cons {r : List Char} (h : FollowsValue r) :
    ∃ c t, r = c :: t ∧ isDigit c = false ∧ c ≠ '.' ∧ c ≠ 'e' ∧ c ≠ 'E' := by
  obtain ⟨c, t, hc, rfl⟩ := h
  refine ⟨c, t, rfl, ?_⟩
  simp only [List.mem_cons, List.not_mem_nil, or_false] at hc
  rcases hc with rfl | rfl | rfl | rfl | rfl | rfl | rfl <;> decide

theorem FollowsValue.stopsDigits {r : List Char} (h : FollowsValue r) : StopsDigits r := by
  obtain ⟨c, t, rfl, hc, -⟩ := h.exists_cons
  exact hc

/-- No digit follows the integer part of a number. -/
theorem stopsDigits_tail {fraction exponent r : List Char} (hf : Fraction fraction)
    (he : Exponent exponent) (hr : FollowsValue r) :
    StopsDigits (fraction ++ (exponent ++ r)) := by
  cases hf with
  | digits _ => rfl
  | none =>
    cases he with
    | none => exact hr.stopsDigits
    | digits hletter _ _ => rcases hletter with rfl | rfl <;> rfl

/-- An integer part is a zero, or it starts with another digit. -/
theorem toDigits_cases (n : Nat) :
    (n = 0 ∧ Nat.toDigits 10 n = ['0']) ∨
      ∃ c ds, Nat.toDigits 10 n = c :: ds ∧ c ≠ '0' ∧ isDigit c = true := by
  induction n using Nat.strongRecOn with
  | ind n ih =>
    rcases Nat.lt_or_ge n 10 with hlt | hge
    · rw [Nat.toDigits_of_lt_base hlt]
      have hall : ∀ n < 10, n = 0 ∧ [Nat.digitChar n] = ['0'] ∨
          Nat.digitChar n ≠ '0' ∧ isDigit (Nat.digitChar n) = true := by decide
      rcases hall n hlt with hzero | hother
      · exact Or.inl hzero
      · exact Or.inr ⟨_, _, rfl, hother⟩
    · -- the first digit is that of the number without its last one
      rw [Nat.toDigits_of_base_le (by decide) hge]
      rcases ih (n / 10) (by omega) with ⟨hzero, -⟩ | ⟨c, ds, hds, hc⟩
      · omega
      · exact Or.inr ⟨c, ds ++ _, by rw [hds, List.cons_append], hc⟩

/-- An integer part starts with a digit. -/
theorem exists_cons_toDigits (n : Nat) :
    ∃ c ds, Nat.toDigits 10 n = c :: ds ∧ isDigit c = true := by
  rcases toDigits_cases n with ⟨-, h⟩ | ⟨c, ds, h, -, hc⟩
  · exact ⟨'0', [], h, rfl⟩
  · exact ⟨c, ds, h, hc⟩

/-- A number starts with a minus or a digit. -/
theorem Numeral.exists_cons {s : List Char} (h : Numeral s) :
    ∃ c t, s = c :: t ∧ (c = '-' ∨ isDigit c = true) := by
  obtain ⟨n, hsign, -, -⟩ := h
  simp only [List.mem_cons, List.not_mem_nil, or_false] at hsign
  rcases hsign with rfl | rfl
  · obtain ⟨c, ds, h, hc⟩ := exists_cons_toDigits n
    exact ⟨c, _, by rw [h, List.nil_append, List.cons_append], Or.inr hc⟩
  · exact ⟨'-', _, rfl, Or.inl rfl⟩

/-- Digits alone are a number. -/
theorem value_toDigits (n : Nat) : Value (Nat.toDigits 10 n) := by
  have h := @Numeral.parts [] [] [] n (by decide) .none .none
  rw [List.nil_append, List.nil_append, List.append_nil] at h
  exact .number h

/-- What a number starts with is no blank. -/
theorem isBlank_of_numeral {c : Char} (h : c = '-' ∨ isDigit c = true) : isBlank c = false := by
  refine Bool.eq_false_iff.mpr fun hblank => ?_
  have hmem := isBlank_iff.mp hblank
  simp only [List.mem_cons, List.not_mem_nil, or_false] at hmem
  rcases hmem with rfl | rfl | rfl | rfl <;> exact absurd h (by decide)

/-! ## Numbers that are passed over -/

theorem Digits.head {ds : List Char} (h : Digits ds) (r : List Char) :
    ((ds ++ r).head?.any isDigit) = true := by
  obtain ⟨hne, hall⟩ := h
  obtain ⟨d, ds', rfl⟩ := List.exists_cons_of_ne_nil hne
  exact hall d List.mem_cons_self

/-- A sign in front of digits is taken off, if there is one. -/
theorem takeSign_append {sign ds : List Char} (hsign : sign ∈ [[], ['+'], ['-']])
    (hds : Digits ds) (r : List Char) : (takeSign (sign ++ (ds ++ r))).2 = ds ++ r := by
  simp only [List.mem_cons, List.not_mem_nil, or_false] at hsign
  rcases hsign with rfl | rfl | rfl
  · obtain ⟨hne, hall⟩ := hds
    obtain ⟨d, ds', rfl⟩ := List.exists_cons_of_ne_nil hne
    have hd : isDigit d = true := hall d List.mem_cons_self
    rw [List.nil_append, List.cons_append, takeSign.eq_def]
    split
    · rename_i heq
      exact absurd ((List.cons.inj heq).1 ▸ hd) (by decide)
    · rename_i heq
      exact absurd ((List.cons.inj heq).1 ▸ hd) (by decide)
    · rfl
  · rfl
  · rfl

theorem skipScaled_exponent {exponent r : List Char} (he : Exponent exponent)
    (hr : FollowsValue r) : skipScaled (exponent ++ r) = .ok r := by
  cases he with
  | none =>
    obtain ⟨c, t, rfl, -, -, he, hE⟩ := hr.exists_cons
    rw [List.nil_append, skipScaled.eq_def]
    split
    · rename_i heq
      exact absurd (List.cons.inj heq).1 he
    · rename_i heq
      exact absurd (List.cons.inj heq).1 hE
    · rfl
  | @digits e sign ds hletter hsign hds =>
    have hskip : skipExponent (sign ++ (ds ++ r)) = .ok r := by
      simp only [skipExponent, takeSign_append hsign hds, hds.head, if_true,
        Text.afterDigits_append hds.2 hr.stopsDigits]
    rw [List.cons_append, List.append_assoc]
    rcases hletter with rfl | rfl <;> exact hskip

theorem skipTail_numeral {fraction exponent r : List Char} (hf : Fraction fraction)
    (he : Exponent exponent) (hr : FollowsValue r) :
    skipTail (fraction ++ (exponent ++ r)) = .ok r := by
  have hscaled := skipScaled_exponent he hr
  cases hf with
  | @digits ds hds =>
    have hstop : StopsDigits (exponent ++ r) := stopsDigits_tail .none he hr
    rw [List.cons_append, skipTail]
    simp only [hds.head, if_true, Text.afterDigits_append hds.2 hstop]
    exact hscaled
  | none =>
    rw [List.nil_append, skipTail.eq_def]
    split
    · -- a point opens neither an exponent nor what follows a value
      rename_i heq
      cases he with
      | none =>
        obtain ⟨c, t, rfl, -, hpoint, -⟩ := hr.exists_cons
        exact absurd (List.cons.inj heq).1 hpoint
      | digits hletter _ _ =>
        rcases hletter with rfl | rfl <;> exact absurd (List.cons.inj heq).1 (by decide)
    · exact hscaled

theorem skipDigits_toDigits (n : Nat) {t : List Char} (ht : StopsDigits t) :
    skipDigits (Nat.toDigits 10 n ++ t) = skipTail t := by
  have hafter : afterDigits (Nat.toDigits 10 n ++ t) = t :=
    Text.afterDigits_append (fun _ => Text.isDigit_of_mem_toDigits) ht
  rcases toDigits_cases n with ⟨-, h⟩ | ⟨c, ds, h, hzero, hc⟩
  · rw [h, List.singleton_append, skipDigits, if_pos rfl, if_neg (not_head_of_stopsDigits ht)]
  · rw [h] at hafter ⊢
    rw [List.cons_append] at hafter ⊢
    rw [skipDigits, if_neg hzero, if_pos hc, hafter]

/-- **Every number is passed over**, whatever its range. -/
theorem skipNumber_numeral {s r : List Char} (h : Numeral s) (hr : FollowsValue r) :
    skipNumber (s ++ r) = .ok r := by
  obtain ⟨n, hsign, hf, he⟩ := h
  have hdigits := (skipDigits_toDigits n (stopsDigits_tail hf he hr)).trans
    (skipTail_numeral hf he hr)
  simp only [List.mem_cons, List.not_mem_nil, or_false] at hsign
  rw [List.append_assoc, List.append_assoc, List.append_assoc]
  rcases hsign with rfl | rfl
  · rw [List.nil_append, skipNumber.eq_def]
    split
    · rename_i heq
      exact absurd heq (Text.toDigits_append_ne_cons (by decide))
    · exact hdigits
  · exact hdigits

/-! ## Significands -/

/-- Digits that follow others spell at least as much. -/
theorem le_spelled (m : Nat) (ds : List Char) : m ≤ spelled m ds := by
  rw [Text.spelled_eq_add]
  have hpos : 0 < Nat.pow 10 ds.length := Nat.pow_pos (by decide)
  exact Nat.le_trans (Nat.le_mul_of_pos_right m hpos) (Nat.le_add_right _ _)

/-- All digits are gathered if there is room for what they spell. -/
theorem gather_of_le {m : Nat} {ds : List Char} (h : spelled m ds ≤ maxSignificand) :
    gather m ds = (spelled m ds, []) := by
  induction ds generalizing m with
  | nil => rfl
  | cons d ds ih =>
    rw [Text.spelled_cons] at h ⊢
    have hroom : 10 * m + digitValue d ≤ maxSignificand := Nat.le_trans (le_spelled _ ds) h
    rw [gather, if_pos hroom]
    exact ih h

/-- If no digits are left, then what was gathered is what they spell. -/
theorem spelled_of_gather {m n : Nat} {ds : List Char} (h : gather m ds = (n, [])) :
    spelled m ds = n := by
  induction ds generalizing m with
  | nil => exact (Prod.mk.inj h).1
  | cons d ds ih =>
    rw [gather] at h
    split at h
    · rw [Text.spelled_cons]
      exact ih h
    · exact absurd (Prod.mk.inj h).2 (List.cons_ne_nil d ds)

/-! ## Natural numbers -/

theorem readDigits_toDigits (negative : Bool) (n : Nat) {t : List Char} (ht : StopsDigits t) :
    readDigits negative (Nat.toDigits 10 n ++ t) = readTail negative (Nat.toDigits 10 n) t := by
  have hleading : leadingDigits (Nat.toDigits 10 n ++ t) = Nat.toDigits 10 n :=
    leadingDigits_append (fun _ => Text.isDigit_of_mem_toDigits) ht
  have hafter : afterDigits (Nat.toDigits 10 n ++ t) = t :=
    Text.afterDigits_append (fun _ => Text.isDigit_of_mem_toDigits) ht
  rcases toDigits_cases n with ⟨-, h⟩ | ⟨c, ds, h, hzero, hc⟩
  · rw [h, List.singleton_append, readDigits, if_pos rfl, if_neg (not_head_of_stopsDigits ht)]
  · rw [h] at hleading hafter ⊢
    rw [List.cons_append] at hleading hafter ⊢
    rw [readDigits, if_neg hzero, if_pos hc, hleading, hafter]

theorem readNumber_sign_nil (n : Nat) (t : List Char) :
    readNumber (Nat.toDigits 10 n ++ t) = readDigits false (Nat.toDigits 10 n ++ t) := by
  rw [readNumber.eq_def]
  split
  · rename_i heq
    exact absurd heq (Text.toDigits_append_ne_cons (by decide))
  · rfl

/-- **A number of digits alone is read exactly** if it fits 64 bits. -/
theorem readNumber_toDigits {n : Nat} (hn : n ≤ maxSignificand) {r : List Char}
    (hr : FollowsValue r) : readNumber (Nat.toDigits 10 n ++ r) = .ok (.natural n, r) := by
  have hspelled : spelled 0 (Nat.toDigits 10 n) = n := Text.spelled_toDigits n
  have hgather : gather 0 (Nat.toDigits 10 n) = (n, []) := by
    rw [gather_of_le (by rwa [hspelled]), hspelled]
  obtain ⟨c, t, rfl, -, hpoint, he, hE⟩ := hr.exists_cons
  rw [readNumber_sign_nil, readDigits_toDigits false n hr.stopsDigits, readTail.eq_def, hgather]
  dsimp only
  split
  · rename_i heq
    exact absurd (List.cons.inj heq).1 hpoint
  · rw [if_pos ⟨rfl, by simpa using he, by simpa using hE⟩]
    rfl

/-! ### Nothing else is a natural number -/

theorem ofParts_ne_natural {negative : Bool} {m n : Nat} {e : Int} {s r : List Char} :
    ofParts negative m e s ≠ .ok (.natural n, r) := by
  rw [ofParts]
  split <;> simp

theorem readExponent_ne_natural {negative : Bool} {m n : Nat} {e : Int} {s r : List Char} :
    readExponent negative m e s ≠ .ok (.natural n, r) := by
  rw [readExponent]
  dsimp only
  split
  · simp
  · split
    · split
      · exact ofParts_ne_natural
      · split <;> simp
    · simp

theorem readScaled_ne_natural {negative : Bool} {m n : Nat} {e : Int} {s r : List Char} :
    readScaled negative m e s ≠ .ok (.natural n, r) := by
  rw [readScaled.eq_def]
  split
  · exact readExponent_ne_natural
  · exact readExponent_ne_natural
  · exact ofParts_ne_natural

theorem readFraction_ne_natural {negative : Bool} {m n : Nat} {e : Int} {s r : List Char} :
    readFraction negative m e s ≠ .ok (.natural n, r) := by
  rw [readFraction.eq_def]
  split
  · simp
  · split
    · exact readScaled_ne_natural
    · simp

/-- A natural number has no minus, its digits fit 64 bits, and neither a fraction nor an exponent
follows them. -/
theorem natural_of_readTail {negative : Bool} {ds s r : List Char} {n : Nat}
    (h : readTail negative ds s = .ok (.natural n, r)) :
    negative = false ∧ gather 0 ds = (n, []) ∧
      s.head? ≠ some '.' ∧ s.head? ≠ some 'e' ∧ s.head? ≠ some 'E' := by
  rw [readTail.eq_def] at h
  dsimp only at h
  split at h
  · exact absurd h readFraction_ne_natural
  · rename_i hpoint
    split at h
    · rename_i hbare
      obtain ⟨hleft, he, hE⟩ := hbare
      simp only [Except.ok.injEq, Prod.mk.injEq] at h
      have hnegative : negative = false ∧ (gather 0 ds).1 = n := by
        rw [ofInteger] at h
        cases negative with
        | false => exact ⟨rfl, by simpa using h.1⟩
        | true =>
          rw [if_pos rfl] at h
          split at h <;> exact absurd h.1 (by simp)
      refine ⟨hnegative.1, Prod.ext hnegative.2 hleft, ?_, he, hE⟩
      intro hhead
      obtain ⟨t, rfl⟩ := List.head?_eq_some_iff.mp hhead
      exact hpoint t rfl
    · exact absurd h readScaled_ne_natural

theorem natural_of_readDigits {negative : Bool} {s r : List Char} {n : Nat}
    (h : readDigits negative s = .ok (.natural n, r)) :
    negative = false ∧ n ≤ maxSignificand := by
  have hgathered {ds : List Char} (hds : gather 0 ds = (n, [])) : n ≤ maxSignificand := by
    have := gather_le (Nat.zero_le maxSignificand) ds
    rwa [hds] at this
  rw [readDigits.eq_def] at h
  split at h
  · simp at h
  · split at h
    · split at h
      · simp at h
      · obtain ⟨hnegative, hgather, -⟩ := natural_of_readTail h
        exact ⟨hnegative, hgathered hgather⟩
    · split at h
      · obtain ⟨hnegative, hgather, -⟩ := natural_of_readTail h
        exact ⟨hnegative, hgathered hgather⟩
      · simp at h

/-- A natural number fits 64 bits, whatever it is read from. -/
theorem le_of_readNumber {s r : List Char} {n : Nat}
    (h : readNumber s = .ok (.natural n, r)) : n ≤ maxSignificand := by
  rw [readNumber.eq_def] at h
  split at h <;> exact (natural_of_readDigits h).2

/-- **Only a number of digits alone is read as a natural one**, and exactly. -/
theorem eq_toDigits_of_readNumber {s r r' : List Char} {n : Nat} (h : Numeral s)
    (hr : FollowsValue r) (hread : readNumber (s ++ r) = .ok (.natural n, r')) :
    s = Nat.toDigits 10 n := by
  obtain ⟨k, hsign, hf, he⟩ := h
  simp only [List.mem_cons, List.not_mem_nil, or_false] at hsign
  rw [List.append_assoc, List.append_assoc, List.append_assoc] at hread
  rcases hsign with rfl | rfl
  · rw [List.nil_append, readNumber_sign_nil,
      readDigits_toDigits false k (stopsDigits_tail hf he hr)] at hread
    obtain ⟨-, hgather, hpoint, hletter⟩ := natural_of_readTail hread
    have hk : k = n := by
      rw [← spelled_of_gather hgather, Text.spelled_toDigits]
    cases hf with
    | digits _ => exact absurd rfl hpoint
    | none =>
      cases he with
      | digits he' _ _ =>
        rcases he' with rfl | rfl
        · exact absurd rfl hletter.1
        · exact absurd rfl hletter.2
      | none => rw [hk, List.nil_append, List.append_nil, List.append_nil]
  · exact absurd (natural_of_readDigits hread).1 Bool.noConfusion

/-! ## Where a natural number is expected -/

/-- A number of digits alone that fits 64 bits is read where a natural number is expected. -/
theorem readNatural_toDigits {n : Nat} (hn : n ≤ maxSignificand) {b r : List Char}
    (hb : Blanks b) (hr : FollowsValue r) (expected : String) :
    readNatural expected (b ++ (Nat.toDigits 10 n ++ r)) = .ok (n, r) := by
  have hnumber := readNumber_toDigits hn hr
  obtain ⟨c, ds, h, hc⟩ := exists_cons_toDigits n
  rw [h, List.cons_append] at hnumber ⊢
  rw [readNatural, dropBlanks_append_cons hb (isBlank_of_numeral (Or.inr hc))]
  simp only [if_pos (Or.inr hc), hnumber]

/-- A natural number is read off a number, behind blanks. -/
theorem readNumber_of_readNatural {expected : String} {s r : List Char} {n : Nat}
    (h : readNatural expected s = .ok (n, r)) :
    ∃ c t, dropBlanks s = c :: t ∧ (c = '-' ∨ isDigit c = true) ∧
      readNumber (c :: t) = .ok (.natural n, r) := by
  rw [readNatural] at h
  split at h
  · simp at h
  · rename_i c t heq
    split at h
    · rename_i hc
      split at h
      · simp at h
      · rename_i hn
        simp only [Except.ok.injEq, Prod.mk.injEq] at h
        refine ⟨c, t, heq, hc, ?_⟩
        rw [hn, h.1, h.2]
      · simp at h
      · simp at h
    · simp at h

/-- A natural number fits 64 bits, whatever it is read from. -/
theorem le_of_readNatural {expected : String} {s r : List Char} {n : Nat}
    (h : readNatural expected s = .ok (n, r)) : n ≤ maxSignificand := by
  obtain ⟨c, t, -, -, hread⟩ := readNumber_of_readNatural h
  exact le_of_readNumber hread

/-- **Where a natural number is expected, no other value is taken for one**: only a number of
digits alone is read there, and exactly. -/
theorem eq_toDigits_of_readNatural {expected : String} {v b r r' : List Char} {n : Nat}
    (hv : Value v) (hb : Blanks b) (hr : FollowsValue r)
    (h : readNatural expected (b ++ (v ++ r)) = .ok (n, r')) : v = Nat.toDigits 10 n := by
  obtain ⟨c, t, hdrop, hc, hread⟩ := readNumber_of_readNatural h
  have hother (d : Char) (s : List Char) (hblank : isBlank d = false)
      (hd : ¬ (d = '-' ∨ isDigit d = true)) (hv : v ++ r = d :: s) : False := by
    rw [hv, dropBlanks_append_cons hb hblank] at hdrop
    exact hd ((List.cons.inj hdrop).1 ▸ hc)
  cases hv with
  | word hword =>
    simp only [words, List.mem_cons, List.not_mem_nil, or_false] at hword
    rcases hword with rfl | rfl | rfl
    · exact (hother 'n' _ (by decide) (by decide) rfl).elim
    · exact (hother 't' _ (by decide) (by decide) rfl).elim
    · exact (hother 'f' _ (by decide) (by decide) rfl).elim
  | list _ _ => exact (hother '[' _ (by decide) (by decide) rfl).elim
  | object _ _ => exact (hother '{' _ (by decide) (by decide) rfl).elim
  | text hquoted =>
    obtain ⟨body, -, rfl⟩ := hquoted
    exact (hother '"' _ (by decide) (by decide) rfl).elim
  | number hnumeral =>
    obtain ⟨d, s, rfl, hd⟩ := hnumeral.exists_cons
    rw [List.cons_append, dropBlanks_append_cons hb (isBlank_of_numeral hd)] at hdrop
    rw [← hdrop] at hread
    exact eq_toDigits_of_readNumber hnumeral hr hread

end Json
end Roster
