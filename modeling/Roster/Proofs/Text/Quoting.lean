import Roster.Proofs.Text.Digits
import Roster.Text.Quoted

/-!
# Quoted texts can be told apart

What stands between quotes ends where the closing quote says so, whatever it contains: of two texts
that go on in any way behind a quoted text, or behind a list of them, neither can be mistaken for
the other.

* `SelfDelimiting` — the ways of writing of which the end can be seen.
* `append_inj_of_stops` and `toDigits_inj` — numbers, which end in front of another character.
* `QuotedAs` — the three ways in which a character stands between quotes (`quotedAs_quotedChar`).
* `selfDelimiting_quotedChar`, `selfDelimiting_quotedChars` and `selfDelimiting_quotedList` —
  characters, texts and lists of texts.
-/

set_option autoImplicit false

namespace Roster
namespace Text

/-- A way of writing things of which the end can be seen: two texts that start with things written
in this way are equal only if the things are, and what follows them. -/
def SelfDelimiting {α : Type} (write : α → List Char) : Prop :=
  ∀ {a b : α} {r s : List Char}, write a ++ r = write b ++ s → a = b ∧ r = s

/-! ## Numbers -/

/-- Characters of a kind end in front of a character of another. -/
theorem append_inj_of_stops {p : Char → Bool} {ds es r s : List Char} {c d : Char}
    (hds : ∀ x ∈ ds, p x = true) (hes : ∀ x ∈ es, p x = true) (hc : p c = false)
    (hd : p d = false) (h : ds ++ c :: r = es ++ d :: s) : ds = es ∧ c :: r = d :: s := by
  have htake := congrArg (List.takeWhile p) h
  rw [List.takeWhile_append_of_pos hds, List.takeWhile_append_of_pos hes,
    List.takeWhile_cons_of_neg (Bool.eq_false_iff.mp hc),
    List.takeWhile_cons_of_neg (Bool.eq_false_iff.mp hd), List.append_nil, List.append_nil] at htake
  subst htake
  exact ⟨rfl, List.append_cancel_left h⟩

/-- The sixteen digits differ from each other. -/
theorem digitChar_inj : ∀ n < 16, ∀ m < 16, Nat.digitChar n = Nat.digitChar m → n = m := by decide

/-- One digit is not several of them. -/
theorem singleton_ne_toDigits {b m : Nat} (hone : 1 < b) (hm : b ≤ m) (c : Char) :
    [c] ≠ Nat.toDigits b m := by
  intro h
  have hlen := congrArg List.length h
  have hpos := Nat.length_toDigits_pos (b := b) (n := m / b)
  rw [Nat.toDigits_of_base_le hone hm, List.length_append, List.length_singleton,
    List.length_singleton] at hlen
  omega

/-- Digits belong to one number only. -/
theorem toDigits_inj {b : Nat} (hone : 1 < b) (hb : b ≤ 16) {n m : Nat}
    (h : Nat.toDigits b n = Nat.toDigits b m) : n = m := by
  induction n using Nat.strongRecOn generalizing m with
  | ind n ih =>
    rcases Nat.lt_or_ge n b with hn | hn
    · rcases Nat.lt_or_ge m b with hm | hm
      · rw [Nat.toDigits_of_lt_base hn, Nat.toDigits_of_lt_base hm] at h
        exact digitChar_inj n (by omega) m (by omega) (List.singleton_inj.mp h)
      · rw [Nat.toDigits_of_lt_base hn] at h
        exact absurd h (singleton_ne_toDigits hone hm _)
    · rcases Nat.lt_or_ge m b with hm | hm
      · rw [Nat.toDigits_of_lt_base hm] at h
        exact absurd h.symm (singleton_ne_toDigits hone hn _)
      · -- both have a last digit and digits before it
        rw [Nat.toDigits_of_base_le hone hn, Nat.toDigits_of_base_le hone hm] at h
        obtain ⟨hinit, hlast⟩ := List.append_inj' h rfl
        have hmod (k : Nat) : k % b < 16 := Nat.lt_of_lt_of_le (Nat.mod_lt k (by omega)) hb
        have hquot : n / b = m / b := ih (n / b) (Nat.div_lt_self (by omega) hone) hinit
        have hrem : n % b = m % b :=
          digitChar_inj _ (hmod n) _ (hmod m) (List.singleton_inj.mp hlast)
        rw [← Nat.div_add_mod n b, hquot, hrem, Nat.div_add_mod]

/-- A brace is no digit of any number. -/
theorem brace_not_mem_toDigits {b : Nat} (hone : 1 < b) (n : Nat) : '}' ∉ Nat.toDigits b n := by
  have hdigit (k : Nat) : '}' ∉ [Nat.digitChar k] := fun hmem =>
    Nat.digitChar_ne '}' (by decide) (List.mem_singleton.mp hmem).symm
  induction n using Nat.strongRecOn with
  | ind n ih =>
    rcases Nat.lt_or_ge n b with hn | hn
    · rw [Nat.toDigits_of_lt_base hn]
      exact hdigit n
    · rw [Nat.toDigits_of_base_le hone hn, List.mem_append, not_or]
      exact ⟨ih (n / b) (Nat.div_lt_self (by omega) hone), hdigit _⟩

/-- A number in decimal digits ends in front of what is no digit. -/
theorem toDigits_append_inj {n m : Nat} {c d : Char} {r s : List Char} (hc : isDigit c = false)
    (hd : isDigit d = false) (h : Nat.toDigits 10 n ++ c :: r = Nat.toDigits 10 m ++ d :: s) :
    n = m ∧ c :: r = d :: s := by
  obtain ⟨hdigits, hrest⟩ := append_inj_of_stops (fun _ => isDigit_of_mem_toDigits)
    (fun _ => isDigit_of_mem_toDigits) hc hd h
  exact ⟨toDigits_inj (by decide) (by decide) hdigits, hrest⟩

/-! ## Characters -/

/-- The letters that stand for a character behind a backslash, each with its character. -/
def quotedLetters : List (Char × Char) :=
  [('0', '\x00'), ('t', '\t'), ('n', '\n'), ('r', '\r'), ('"', '"'), ('\\', '\\')]

/-- The ways in which a character may stand between quotes: as itself, by a letter, or by its code
between braces. -/
inductive QuotedAs (c : Char) : List Char → Prop
  | plain : c ≠ '"' → c ≠ '\\' → QuotedAs c [c]
  | letter {l : Char} : (l, c) ∈ quotedLetters → QuotedAs c ['\\', l]
  | code : QuotedAs c ('\\' :: 'u' :: '{' :: (Nat.toDigits 16 c.toNat ++ ['}']))

theorem quotedAs_quotedChar (c : Char) : QuotedAs c (quotedChar c) := by
  by_cases hletter : c ∈ quotedLetters.map Prod.snd
  · simp only [quotedLetters, List.map_cons, List.map_nil, List.mem_cons, List.not_mem_nil,
      or_false] at hletter
    rcases hletter with rfl | rfl | rfl | rfl | rfl | rfl
    · exact .letter (l := '0') (by simp [quotedLetters])
    · exact .letter (l := 't') (by simp [quotedLetters])
    · exact .letter (l := 'n') (by simp [quotedLetters])
    · exact .letter (l := 'r') (by simp [quotedLetters])
    · exact .letter (l := '"') (by simp [quotedLetters])
    · exact .letter (l := '\\') (by simp [quotedLetters])
  · simp only [quotedLetters, List.map_cons, List.map_nil, List.mem_cons, List.not_mem_nil,
      or_false, not_or] at hletter
    obtain ⟨hzero, htab, hline, hreturn, hquote, hslash⟩ := hletter
    rw [quotedChar, if_neg hzero, if_neg htab, if_neg hline, if_neg hreturn, if_neg hquote,
      if_neg hslash]
    split
    · exact .plain hquote hslash
    · exact .code

/-- A letter stands for one character, and it is not the letter in front of a code. -/
theorem quotedLetters_unique {l c d : Char} (hc : (l, c) ∈ quotedLetters)
    (hd : (l, d) ∈ quotedLetters) : c = d := by
  simp only [quotedLetters, List.mem_cons, Prod.mk.injEq, List.not_mem_nil, or_false] at hc hd
  grind

theorem ne_u_of_mem_quotedLetters {l c : Char} (h : (l, c) ∈ quotedLetters) : l ≠ 'u' := by
  simp only [quotedLetters, List.mem_cons, Prod.mk.injEq, List.not_mem_nil, or_false] at h
  grind

/-- No character stands between quotes in a way that could be the closing quote. -/
theorem QuotedAs.append_ne_quote {c : Char} {t r s : List Char} (h : QuotedAs c t) :
    t ++ r ≠ '"' :: s := by
  intro heq
  cases h with
  | plain hquote _ => exact hquote (List.cons.inj heq).1
  | letter _ => exact absurd (List.cons.inj heq).1 (by decide)
  | code => exact absurd (List.cons.inj heq).1 (by decide)

/-- **Two characters that stand between quotes in the same way are the same**, and end at the same
place. -/
theorem QuotedAs.append_inj {c d : Char} {t u r s : List Char} (hc : QuotedAs c t)
    (hd : QuotedAs d u) (h : t ++ r = u ++ s) : c = d ∧ r = s := by
  cases hc with
  | plain hquote hslash =>
    cases hd with
    | plain _ _ => exact List.cons.inj h
    | letter _ => exact absurd (List.cons.inj h).1 hslash
    | code => exact absurd (List.cons.inj h).1 hslash
  | letter hl =>
    cases hd with
    | plain _ hslash => exact absurd (List.cons.inj h).1.symm hslash
    | letter hl' =>
      obtain ⟨hletter, htail⟩ := List.cons.inj (List.cons.inj h).2
      exact ⟨quotedLetters_unique hl (hletter ▸ hl'), htail⟩
    | code => exact absurd (List.cons.inj (List.cons.inj h).2).1 (ne_u_of_mem_quotedLetters hl)
  | code =>
    cases hd with
    | plain _ hslash => exact absurd (List.cons.inj h).1.symm hslash
    | letter hl' =>
      exact absurd (List.cons.inj (List.cons.inj h).2).1.symm (ne_u_of_mem_quotedLetters hl')
    | code =>
      have hcodes : Nat.toDigits 16 c.toNat ++ '}' :: r = Nat.toDigits 16 d.toNat ++ '}' :: s := by
        simpa using h
      -- the digits end in front of the brace, which is none of them
      have hbrace (k : Nat) : ∀ x ∈ Nat.toDigits 16 k, (x != '}') = true := fun x hx =>
        bne_iff_ne.mpr fun heq => brace_not_mem_toDigits (by decide) k (heq ▸ hx)
      obtain ⟨hdigits, hrest⟩ := append_inj_of_stops (hbrace _) (hbrace _) rfl rfl hcodes
      have hcode : c.toNat = d.toNat := toDigits_inj (by decide) (by decide) hdigits
      exact ⟨Char.toNat_inj.mp hcode, (List.cons.inj hrest).2⟩

theorem selfDelimiting_quotedChar : SelfDelimiting quotedChar := fun h =>
  (quotedAs_quotedChar _).append_inj (quotedAs_quotedChar _) h

/-! ## Texts -/

/-- Characters between quotes end at the closing quote. -/
theorem flatMap_quotedChar_append_inj {s t r u : List Char}
    (h : s.flatMap quotedChar ++ '"' :: r = t.flatMap quotedChar ++ '"' :: u) :
    s = t ∧ r = u := by
  induction s generalizing t with
  | nil =>
    cases t with
    | nil => exact ⟨rfl, (List.cons.inj h).2⟩
    | cons d t =>
      rw [List.flatMap_cons, List.append_assoc] at h
      exact absurd h.symm (quotedAs_quotedChar d).append_ne_quote
  | cons c s ih =>
    rw [List.flatMap_cons, List.append_assoc] at h
    cases t with
    | nil => exact absurd h (quotedAs_quotedChar c).append_ne_quote
    | cons d t =>
      rw [List.flatMap_cons, List.append_assoc] at h
      obtain ⟨rfl, htail⟩ := selfDelimiting_quotedChar h
      obtain ⟨rfl, hrest⟩ := ih htail
      exact ⟨rfl, hrest⟩

/-- **A text between quotes ends at its closing quote**, whatever it contains and whatever
follows. -/
theorem selfDelimiting_quotedChars : SelfDelimiting quotedChars := by
  intro s t r u h
  rw [quotedChars, quotedChars, List.cons_append, List.cons_append, List.append_assoc,
    List.append_assoc] at h
  exact flatMap_quotedChar_append_inj (List.cons.inj h).2

theorem toList_quoted (s : String) : (quoted s).toList = quotedChars s.toList :=
  String.toList_ofList

theorem selfDelimiting_quoted : SelfDelimiting fun s => (quoted s).toList := by
  intro s t r u h
  simp only [toList_quoted] at h
  obtain ⟨hst, hru⟩ := selfDelimiting_quotedChars h
  exact ⟨String.toList_inj.mp hst, hru⟩

/-! ## Lists of texts -/

/-- The texts of a list behind the first one, each behind its comma. -/
def furtherQuoted (ss : List String) : List Char :=
  ss.flatMap fun s => ',' :: ' ' :: (quoted s).toList

theorem furtherQuoted_append_inj {ss ts : List String} {r u : List Char}
    (h : furtherQuoted ss ++ ']' :: r = furtherQuoted ts ++ ']' :: u) : ss = ts ∧ r = u := by
  induction ss generalizing ts with
  | nil =>
    cases ts with
    | nil => exact ⟨rfl, (List.cons.inj h).2⟩
    | cons t ts => exact absurd (List.cons.inj h).1 (by decide)
  | cons s ss ih =>
    cases ts with
    | nil => exact absurd (List.cons.inj h).1 (by decide)
    | cons t ts =>
      rw [furtherQuoted, furtherQuoted, List.flatMap_cons, List.flatMap_cons, List.append_assoc,
        List.append_assoc] at h
      obtain ⟨rfl, htail⟩ := selfDelimiting_quoted (List.cons.inj (List.cons.inj h).2).2
      obtain ⟨rfl, hrest⟩ := ih htail
      exact ⟨rfl, hrest⟩

theorem toList_quotedList_nil : (quotedList []).toList = ['[', ']'] := by
  rw [quotedList, List.map_nil, String.intercalate_nil]
  rfl

theorem toList_quotedList_cons (s : String) (ss : List String) :
    (quotedList (s :: ss)).toList =
      '[' :: ((quoted s).toList ++ (furtherQuoted ss ++ [']'])) := by
  have hjoin : (", ".intercalate ((s :: ss).map quoted)).toList =
      (quoted s).toList ++ furtherQuoted ss := by
    induction ss generalizing s with
    | nil =>
      rw [List.map_singleton, String.intercalate_singleton]
      exact (List.append_nil _).symm
    | cons t ss ih =>
      have hcomma : (", " : String).toList = [',', ' '] := rfl
      rw [List.map_cons, List.map_cons, String.intercalate_cons_cons, ← List.map_cons,
        String.toList_append, String.toList_append, ih t, hcomma, furtherQuoted, furtherQuoted,
        List.flatMap_cons, List.append_assoc]
      simp only [List.cons_append, List.nil_append]
  have hopen : ("[" : String).toList = ['['] := rfl
  have hclose : ("]" : String).toList = [']'] := rfl
  rw [quotedList, String.toList_append, String.toList_append, hjoin, hopen, hclose,
    List.append_assoc, List.append_assoc, List.singleton_append]

/-- **A list of quoted texts ends at its closing bracket**, whatever brackets, commas and quotes the
texts contain. -/
theorem selfDelimiting_quotedList : SelfDelimiting fun ss => (quotedList ss).toList := by
  intro ss ts r u h
  dsimp only at h
  cases ss with
  | nil =>
    cases ts with
    | nil => exact ⟨rfl, List.append_cancel_left h⟩
    | cons t ts =>
      rw [toList_quotedList_nil, toList_quotedList_cons, toList_quoted, quotedChars] at h
      exact absurd (List.cons.inj (List.cons.inj h).2).1 (by decide)
  | cons s ss =>
    cases ts with
    | nil =>
      rw [toList_quotedList_nil, toList_quotedList_cons, toList_quoted, quotedChars] at h
      exact absurd (List.cons.inj (List.cons.inj h).2).1 (by decide)
    | cons t ts =>
      rw [toList_quotedList_cons, toList_quotedList_cons, List.cons_append, List.cons_append,
        List.append_assoc, List.append_assoc, List.append_assoc, List.append_assoc] at h
      obtain ⟨rfl, htail⟩ := selfDelimiting_quoted (List.cons.inj h).2
      obtain ⟨rfl, hrest⟩ := furtherQuoted_append_inj htail
      exact ⟨rfl, hrest⟩

end Text
end Roster
