import Mathlib.Data.List.TakeWhile
import Roster.Proofs.Json.Grammar

/-!
# Every spelling of a text is read

A text is read as what it stands for, whichever way each of its characters is spelled, and the
blanks around it are passed over.

* `readText_spelled` — the reader finds the text that is spelled, `skipText_pieces` its end.
* `readString_spelled` and `nextKey_spelled` — where a text or a key is expected.
* `skipKey_labelled` — a key that nobody will look at.
* `Spells.quoted` and `spells_written` — what spells a text is one, and a written text spells it.
-/

set_option autoImplicit false

namespace Roster
namespace Json

/-! ## Blanks -/

theorem isBlank_iff {c : Char} : isBlank c = true ↔ c ∈ [' ', '\t', '\n', '\r'] := by
  simp only [isBlank, Bool.or_eq_true, beq_iff_eq, List.mem_cons, List.not_mem_nil, or_false]
  grind

/-- Blanks are dropped, all of them and with what follows them. -/
theorem dropBlanks_append {b : List Char} (hb : Blanks b) (s : List Char) :
    dropBlanks (b ++ s) = dropBlanks s := by
  induction b with
  | nil => rfl
  | cons c b ih =>
    have hc : isBlank c = true := isBlank_iff.mpr (hb c List.mem_cons_self)
    rw [List.cons_append, dropBlanks, List.dropWhile_cons_of_pos hc]
    exact ih fun d hd => hb d (List.mem_cons_of_mem c hd)

/-- Blanks are dropped up to the first character that is none. -/
theorem dropBlanks_append_cons {b : List Char} (hb : Blanks b) {c : Char}
    (hc : isBlank c = false) (s : List Char) : dropBlanks (b ++ c :: s) = c :: s := by
  rw [dropBlanks_append hb, dropBlanks_cons hc]

/-- With no blanks left there are none to drop. -/
theorem dropBlanks_dropBlanks (s : List Char) : dropBlanks (dropBlanks s) = dropBlanks s := by
  cases h : dropBlanks s with
  | nil => rfl
  | cons c r => exact dropBlanks_cons (isBlank_head_dropBlanks h) r

/-- Nothing is left of blanks, and of nothing else. -/
theorem dropBlanks_eq_nil_iff {s : List Char} : dropBlanks s = [] ↔ Blanks s := by
  rw [dropBlanks, List.dropWhile_eq_nil_iff]
  exact forall₂_congr fun _ _ => isBlank_iff

/-- A colon is found behind blanks. -/
theorem colon_append {b : List Char} (hb : Blanks b) (s : List Char) :
    colon (b ++ ':' :: s) = .ok s := by
  rw [colon, dropBlanks_append_cons hb (by decide)]
  rfl

/-! ## Escapes -/

theorem letterEscape_eq_some_iff {l c : Char} : letterEscape l = some c ↔ (l, c) ∈ letters := by
  constructor
  · intro h
    rw [letterEscape] at h
    split at h
    · rename_i hself
      obtain rfl : l = c := Option.some.inj h
      rcases hself with rfl | rfl | rfl <;> decide
    · repeat' split at h
      all_goals cases h
      all_goals subst_vars; decide
  · intro h
    have hall : letters.all (fun p => letterEscape p.1 == some p.2) = true := by decide
    exact eq_of_beq (List.all_eq_true.mp hall (l, c) h)

/-- A hexadecimal digit has the value that it stands for. -/
theorem HexDigit.hexValue_eq {n : Nat} {d : Char} (h : HexDigit n d) : hexValue d = some n := by
  obtain ⟨hn, rfl | rfl⟩ := h
  · exact hexValue_digitChar n hn
  · have hupper : ∀ k < 16, hexValue (Nat.digitChar k).toUpper = some k := by decide
    exact hupper n hn

/-- Four hexadecimal digits are read as the number that they stand for. -/
theorem Quad.readQuad_append {n : Nat} {ds : List Char} (h : Quad n ds) (r : List Char) :
    readQuad (ds ++ r) = .ok (n, r) := by
  obtain ⟨ha, hb, hc, hd⟩ := h
  rename_i a b c d
  have hquad : quadValue a b c d = some n := by
    have hsum : n / 0x1000 * 0x1000 + n / 0x100 % 0x10 * 0x100 + n / 0x10 % 0x10 * 0x10 +
        n % 0x10 = n := by omega
    rw [quadValue, ha.hexValue_eq, hb.hexValue_eq, hc.hexValue_eq, hd.hexValue_eq]
    exact congrArg some hsum
  simp only [List.cons_append, List.nil_append, readQuad, hquad]

/-- The code of a character is no half of a surrogate pair. -/
theorem not_surrogate (c : Char) : isTrailing c.toNat = false ∧ isLeading c.toNat = false := by
  have hvalid : c.toNat < 0xd800 ∨ 0xdfff < c.toNat ∧ c.toNat < 0x110000 := c.valid
  simp only [isTrailing, isLeading, Bool.and_eq_false_iff, decide_eq_false_iff_not]
  omega

/-- An escape by code is read as the character that has the code. -/
theorem readUnits_code {c : Char} {ds : List Char} (h : Quad c.toNat ds) (r : List Char) :
    readUnits (ds ++ r) = .ok (c, r) := by
  obtain ⟨htrailing, hleading⟩ := not_surrogate c
  rw [readUnits, h.readQuad_append]
  simp only [htrailing, hleading, Bool.false_eq_true, if_false, Char.ofNat_toNat]

/-- Two escapes by code are read as the character that the surrogate pair stands for. -/
theorem readUnits_pair {c : Char} {leading trailing : Nat} {ds es : List Char}
    (h₁ : 0xd800 ≤ leading) (h₂ : leading ≤ 0xdbff) (h₃ : 0xdc00 ≤ trailing)
    (h₄ : trailing ≤ 0xdfff)
    (hc : c.toNat = 0x10000 + (leading - 0xd800) * 0x400 + (trailing - 0xdc00))
    (hds : Quad leading ds) (hes : Quad trailing es) (r : List Char) :
    readUnits (ds ++ '\\' :: 'u' :: (es ++ r)) = .ok (c, r) := by
  have hfirst : isTrailing leading = false ∧ isLeading leading = true := by
    simp only [isTrailing, isLeading, Bool.and_eq_false_iff, decide_eq_false_iff_not,
      Bool.and_eq_true, decide_eq_true_eq]
    omega
  have hsecond : isTrailing trailing = true := by
    simp only [isTrailing, Bool.and_eq_true, decide_eq_true_eq]
    exact ⟨h₃, h₄⟩
  have hpair : ofPair leading trailing = c := by
    rw [ofPair, ← hc, Char.ofNat_toNat]
  have hmark (mark : Char) (s : List Char) : readPairMark mark (mark :: s) = .ok s := if_pos rfl
  rw [readUnits, hds.readQuad_append]
  simp only [hfirst.1, hfirst.2, Bool.false_eq_true, if_false, if_true, hmark,
    hes.readQuad_append, hsecond, hpair]

/-! ## Texts -/

/-- A character is read, whichever way it is spelled. -/
theorem SpellsChar.readText_append {c : Char} {s : List Char} (h : SpellsChar c s)
    (r : List Char) :
    readText (s ++ r) = (readText r).map fun (t, rest) => (c :: t, rest) := by
  cases h with
  | plain hplain =>
    obtain ⟨hquote, hslash, hcode⟩ := hplain
    have hcontrol : ¬ isControl c = true := by
      simp only [isControl, decide_eq_true_eq]
      omega
    rw [List.singleton_append, readText_cons, if_neg hquote, if_neg hslash, if_neg hcontrol]
  | @letter l hletter =>
    have hescape : readEscape (l :: r) = .ok (c, r) := by
      rw [readEscape, letterEscape_eq_some_iff.mpr hletter]
    exact readText_escape hescape
  | code hcode => exact readText_escape (readUnits_code hcode r)
  | pair h₁ h₂ h₃ h₄ hc hds hes =>
    rw [List.cons_append, List.cons_append, List.append_assoc]
    exact readText_escape (readUnits_pair h₁ h₂ h₃ h₄ hc hds hes r)

/-- **A spelled text is read**, and what follows its closing quote is left. -/
theorem readText_spelled {t body : List Char} (h : SpellsChars t body) (r : List Char) :
    readText (body ++ '"' :: r) = .ok (t, r) := by
  induction h with
  | nil => rw [List.nil_append, readText_cons, if_pos rfl]
  | cons hc _ ih =>
    rw [List.append_assoc, hc.readText_append, ih]
    rfl

theorem quoted_append (body r : List Char) :
    '"' :: (body ++ ['"']) ++ r = '"' :: (body ++ '"' :: r) := by
  rw [List.cons_append, List.append_assoc, List.singleton_append]

/-- The same with the opening quote and blanks before it, where a text is expected. -/
theorem readString_spelled {t : String} {b s : List Char} (hb : Blanks b) (h : Spells t s)
    (expected : String) (r : List Char) : readString expected (b ++ (s ++ r)) = .ok (t, r) := by
  obtain ⟨body, hbody, rfl⟩ := h
  rw [quoted_append, readString, dropBlanks_append_cons hb (by decide)]
  simp only [if_true, readText_spelled hbody, String.ofList_toList]

/-! ## Keys -/

/-- A spelled key is read. -/
theorem readKey_spelled {key : String} {s : List Char} (h : Spells key s) (r : List Char) :
    readKey (s ++ r) = .ok (key, r) := by
  obtain ⟨body, hbody, rfl⟩ := h
  rw [quoted_append, readKey, readText_spelled hbody]
  simp only [String.ofList_toList]

/-- A spelled text starts with its quote. -/
theorem Spells.exists_cons {t : String} {s : List Char} (h : Spells t s) :
    ∃ body, s = '"' :: body := by
  obtain ⟨body, -, rfl⟩ := h
  exact ⟨_, rfl⟩

/-- The next key of an object is read, behind its comma if it needs one and with blanks anywhere
around it. -/
theorem nextKey_spelled (first : Bool) {b b' s : List Char} {key : String} (hb : Blanks b)
    (hb' : Blanks b') (h : Spells key s) (r : List Char) :
    nextKey first (b ++ (separator first ++ (b' ++ (s ++ r)))) = .ok (some key, r) := by
  have hkey := readKey_spelled h r
  obtain ⟨body, rfl⟩ := h.exists_cons
  have hquote : dropBlanks (b' ++ ('"' :: body ++ r)) = '"' :: (body ++ r) :=
    dropBlanks_append_cons hb' (by decide) _
  rw [List.cons_append] at hkey
  rw [nextKey, dropBlanks_append hb]
  cases first with
  | true =>
    rw [separator, if_pos rfl, List.nil_append, hquote]
    simp only [if_neg (show ¬ '"' = '}' by decide), if_true, hkey]
    rfl
  | false =>
    rw [separator, if_neg Bool.false_ne_true, List.singleton_append, dropBlanks_cons (by decide)]
    simp only [if_neg (show ¬ ',' = '}' by decide), if_neg (show ¬ '"' = '}' by decide),
      Bool.false_eq_true, if_false, if_true, hquote, hkey]
    rfl

/-- Behind blanks the closing brace is no key. -/
theorem nextKey_blanks {b : List Char} (hb : Blanks b) (first : Bool) (r : List Char) :
    nextKey first (b ++ '}' :: r) = .ok (none, r) := by
  rw [nextKey, dropBlanks_append_cons hb (by decide)]
  rfl

/-! ## Texts that are passed over -/

theorem skipText_escape {s r : List Char} (h : skipEscape s = .ok r) :
    skipText ('\\' :: s) = skipText r := by
  rw [skipText_cons, if_neg (by decide), if_pos rfl, h]

/-- **A text is passed over to its closing quote**, whether or not it stands for anything. -/
theorem skipText_pieces {body : List Char} (h : Pieces body) (r : List Char) :
    skipText (body ++ '"' :: r) = .ok r := by
  induction h with
  | nil => rw [List.nil_append, skipText_cons, if_pos rfl]
  | @plain c body hplain _ ih =>
    obtain ⟨hquote, hslash, hcode⟩ := hplain
    have hcontrol : ¬ isControl c = true := by
      simp only [isControl, decide_eq_true_eq]
      omega
    rw [List.cons_append, skipText_cons, if_neg hquote, if_neg hslash, if_neg hcontrol]
    exact ih
  | @letter l c body hletter _ ih =>
    have hskip : skipEscape (l :: (body ++ '"' :: r)) = .ok (body ++ '"' :: r) := by
      rw [skipEscape, letterEscape_eq_some_iff.mpr hletter]
    exact (skipText_escape hskip).trans ih
  | @code n ds body hquad _ ih =>
    have hskip : skipEscape ('u' :: (ds ++ (body ++ '"' :: r))) = .ok (body ++ '"' :: r) := by
      have hu : letterEscape 'u' = none := rfl
      rw [skipEscape, hu]
      simp only [if_true, hquad.readQuad_append]
    rw [List.cons_append, List.cons_append, List.append_assoc]
    exact (skipText_escape hskip).trans ih

/-- A key with its colon is passed over. -/
theorem skipKey_labelled {k : Unit} {l : List Char} (h : Labelled (fun _ => Quoted) k l)
    (r : List Char) : skipKey (l ++ r) = .ok r := by
  obtain ⟨b, key, b', hb, ⟨body, hbody, rfl⟩, hb', rfl⟩ := h
  rw [List.append_assoc, List.append_assoc, quoted_append, skipKey,
    dropBlanks_append_cons hb (by decide)]
  simp only [if_true, List.append_assoc, skipText_pieces hbody]
  exact colon_append hb' r

/-! ## Spelled texts and texts -/

/-- What spells a character may stand between quotes. -/
theorem SpellsChar.pieces_append {c : Char} {s r : List Char} (h : SpellsChar c s)
    (hr : Pieces r) : Pieces (s ++ r) := by
  cases h with
  | plain hplain => exact .plain hplain hr
  | letter hletter => exact .letter hletter hr
  | code hcode => exact .code hcode hr
  | pair _ _ _ _ _ hds hes =>
    rw [List.cons_append, List.cons_append, List.append_assoc]
    exact .code hds (.code hes hr)

theorem SpellsChars.pieces {t s : List Char} (h : SpellsChars t s) : Pieces s := by
  induction h with
  | nil => exact .nil
  | cons hc _ ih => exact hc.pieces_append ih

/-- What spells a text is a text between quotes. -/
theorem Spells.quoted {t : String} {s : List Char} (h : Spells t s) : Quoted s := by
  obtain ⟨body, hbody, rfl⟩ := h
  exact ⟨body, hbody.pieces, rfl⟩

/-- A character is spelled as it is written. -/
theorem spellsChar_written (c : Char) : SpellsChar c (writtenChar c) := by
  rcases writtenChar_cases c with ⟨letter, hletter, hw⟩ | ⟨hcontrol, hw⟩ | ⟨hquote, hslash, hc, hw⟩
  · rw [hw]
    exact .letter (letterEscape_eq_some_iff.mp hletter)
  · have hcode : c.toNat < 0x20 := by simpa [isControl] using hcontrol
    have hzero : HexDigit 0 '0' := ⟨by decide, .inl rfl⟩
    have hquad : Quad c.toNat ['0', '0', Nat.digitChar (c.toNat / 16),
        Nat.digitChar (c.toNat % 16)] := by
      refine .digits ⟨?_, ?_, ⟨by omega, .inl ?_⟩, ⟨by omega, .inl rfl⟩⟩
      · rwa [show c.toNat / 0x1000 = 0 by omega]
      · rwa [show c.toNat / 0x100 % 0x10 = 0 by omega]
      · rw [Nat.mod_eq_of_lt (by omega)]
    rw [hw]
    exact .code hquad
  · have hcode : 0x20 ≤ c.toNat := by simpa [isControl] using hc
    rw [hw]
    exact .plain ⟨hquote, hslash, hcode⟩

theorem spellsChars_written (t : List Char) : SpellsChars t (t.flatMap writtenChar) := by
  induction t with
  | nil => exact .nil
  | cons c t ih => exact .cons (spellsChar_written c) ih

/-- A written text is one of the ways to spell it. -/
theorem spells_written (t : String) : Spells t (writtenText t.toList) :=
  ⟨_, spellsChars_written t.toList, rfl⟩

end Json
end Roster
