import Roster.Json.Record

/-!
# Written records are read back

What the writer of records gives is read back by the reader of records, member by member.

* `readText_written` — a text between quotes, whatever characters it has.
* `Entry` and `Layout.Reads` — a member as it stands in an object, and that a layout reads it.
* `Layout.decode_written` — a whole object: its entries make their changes one after the other.
-/

set_option autoImplicit false

namespace Roster
namespace Json

/-! ## Texts -/

/-- A character is written in one of three ways: by an escape of one letter, by its code, or as
itself. -/
theorem writtenChar_cases (c : Char) :
    (∃ letter, letterEscape letter = some c ∧ writtenChar c = ['\\', letter]) ∨
      (isControl c = true ∧ writtenChar c =
        ['\\', 'u', '0', '0', Nat.digitChar (c.toNat / 16), Nat.digitChar (c.toNat % 16)]) ∨
      (c ≠ '"' ∧ c ≠ '\\' ∧ isControl c = false ∧ writtenChar c = [c]) := by
  by_cases hletter : c ∈ ['"', '\\', '\x08', '\x0c', '\n', '\r', '\t']
  · left
    simp only [List.mem_cons, List.not_mem_nil, or_false] at hletter
    rcases hletter with rfl | rfl | rfl | rfl | rfl | rfl | rfl
    · exact ⟨'"', rfl, rfl⟩
    · exact ⟨'\\', rfl, rfl⟩
    · exact ⟨'b', rfl, rfl⟩
    · exact ⟨'f', rfl, rfl⟩
    · exact ⟨'n', rfl, rfl⟩
    · exact ⟨'r', rfl, rfl⟩
    · exact ⟨'t', rfl, rfl⟩
  · right
    simp only [List.mem_cons, List.not_mem_nil, or_false, not_or] at hletter
    obtain ⟨hquote, hslash, hback, hfeed, hline, hreturn, htab⟩ := hletter
    rw [writtenChar, if_neg hquote, if_neg hslash, if_neg hback, if_neg hfeed, if_neg hline,
      if_neg hreturn, if_neg htab]
    by_cases hcontrol : isControl c = true
    · exact Or.inl ⟨hcontrol, if_pos hcontrol⟩
    · exact Or.inr ⟨hquote, hslash, Bool.eq_false_iff.mpr hcontrol, if_neg hcontrol⟩

/-- A hexadecimal digit is read as what it was written for. -/
theorem hexValue_digitChar : ∀ k < 16, hexValue (Nat.digitChar k) = some k := by decide

/-- An escape by code is read as the control character that has the code. -/
theorem readUnits_control {c : Char} (h : isControl c = true) (s : List Char) :
    readUnits ('0' :: '0' ::
      Nat.digitChar (c.toNat / 16) :: Nat.digitChar (c.toNat % 16) :: s) = .ok (c, s) := by
  have hcode : c.toNat < 0x20 := by simpa [isControl] using h
  have hhigh := hexValue_digitChar (c.toNat / 16) (by omega)
  have hlow := hexValue_digitChar (c.toNat % 16) (by omega)
  have hzero : hexValue '0' = some 0 := rfl
  have hquad : quadValue '0' '0' (Nat.digitChar (c.toNat / 16)) (Nat.digitChar (c.toNat % 16)) =
      some c.toNat := by
    have hsum : 0 * 0x1000 + 0 * 0x100 + c.toNat / 16 * 0x10 + c.toNat % 16 = c.toNat := by omega
    rw [quadValue, hzero, hhigh, hlow]
    exact congrArg some hsum
  -- a control is no half of a surrogate pair, so no second escape is looked for
  have htrailing : isTrailing c.toNat = false := by
    simp only [isTrailing, Bool.and_eq_false_iff, decide_eq_false_iff_not]
    omega
  have hleading : isLeading c.toNat = false := by
    simp only [isLeading, Bool.and_eq_false_iff, decide_eq_false_iff_not]
    omega
  simp only [readUnits, readQuad, hquad, htrailing, hleading, Char.ofNat_toNat]
  rfl

/-- An escape is read as the character that it stands for. -/
theorem readText_escape {s r : List Char} {c : Char} (h : readEscape s = .ok (c, r)) :
    readText ('\\' :: s) = (readText r).map fun (t, rest) => (c :: t, rest) := by
  rw [readText_cons, if_neg (by decide), if_pos rfl, h]

/-- **A written character is read back**, whichever way it is written. -/
theorem readText_writtenChar (c : Char) (s : List Char) :
    readText (writtenChar c ++ s) = (readText s).map fun (t, rest) => (c :: t, rest) := by
  rcases writtenChar_cases c with ⟨letter, hletter, hw⟩ | ⟨hcontrol, hw⟩ | ⟨hquote, hslash, hc, hw⟩
  · have hescape : readEscape (letter :: s) = .ok (c, s) := by
      simp only [readEscape, hletter]
    rw [hw]
    exact readText_escape hescape
  · rw [hw]
    exact readText_escape (readUnits_control hcontrol s)
  · rw [hw, List.singleton_append, readText_cons, if_neg hquote, if_neg hslash,
      if_neg (Bool.eq_false_iff.mp hc)]

/-- **A written text is read back**, and what follows its closing quote is left. -/
theorem readText_written (t r : List Char) :
    readText (t.flatMap writtenChar ++ '"' :: r) = .ok (t, r) := by
  induction t with
  | nil =>
    rw [List.flatMap_nil, List.nil_append, readText_cons, if_pos rfl]
  | cons c t ih =>
    rw [List.flatMap_cons, List.append_assoc, readText_writtenChar, ih]
    rfl

theorem writtenText_append (t r : List Char) :
    writtenText t ++ r = '"' :: (t.flatMap writtenChar ++ '"' :: r) := by
  rw [writtenText, List.cons_append, List.cons_append, List.append_assoc, List.singleton_append]

/-- The same with the opening quote, where a text is expected. -/
theorem readString_written (expected t : String) (r : List Char) :
    readString expected (writtenText t.toList ++ r) = .ok (t, r) := by
  rw [writtenText_append, readString, dropBlanks_cons (by decide)]
  simp only [if_true, readText_written, String.ofList_toList]

/-! ## Keys -/

theorem readKey_written (key : String) (r : List Char) :
    readKey (writtenText key.toList ++ r) = .ok (key, r) := by
  rw [writtenText_append, readKey, readText_written]
  simp only [String.ofList_toList]

/-- The comma in front of a member, unless it is the first. -/
def separator (first : Bool) : List Char := if first then [] else [',']

/-- The next key is read, behind the comma if it needs one. -/
theorem nextKey_written (first : Bool) (key : String) (r : List Char) :
    nextKey first (separator first ++ (writtenText key.toList ++ r)) = .ok (some key, r) := by
  have hkey := readKey_written key r
  rw [writtenText_append] at hkey ⊢
  cases first with
  | true =>
    rw [separator, if_pos rfl, List.nil_append, nextKey, dropBlanks_cons (by decide)]
    simp only [if_neg (show ¬ '"' = '}' by decide), if_true, hkey]
    rfl
  | false =>
    have hquote : dropBlanks ('"' :: (key.toList.flatMap writtenChar ++ '"' :: r)) = _ :=
      dropBlanks_cons rfl _
    rw [separator, if_neg Bool.false_ne_true, List.singleton_append, nextKey,
      dropBlanks_cons (by decide)]
    simp only [if_neg (show ¬ ',' = '}' by decide), if_neg (show ¬ '"' = '}' by decide),
      Bool.false_eq_true, if_false, if_true, hquote, hkey]
    rfl

/-- The closing brace is no key. -/
theorem nextKey_close (first : Bool) (r : List Char) :
    nextKey first ('}' :: r) = .ok (none, r) := rfl

/-! ## Members -/

variable {α : Type}

/-- A member of a record as it stands in an object: its key, its value as it is written, and the
change that the value makes to the record. -/
structure Entry (α : Type) where
  key : String
  value : List Char
  change : α → α

/-- The written form of an entry. -/
def Entry.written (e : Entry α) : List Char := writtenMember e.key e.value

/-- The record has a member with the key of an entry, and it reads the value of the entry, in front
of what follows a value in an object, as the entry's change. -/
def Layout.Reads (l : Layout α) (e : Entry α) : Prop :=
  ∃ m, l.member? e.key = some m ∧ ∀ mark r, mark = ',' ∨ mark = '}' →
    m.read (e.value ++ mark :: r) = .ok (e.change, mark :: r)

/-- A member reads what its reader of values reads. -/
theorem Member.read_ofReader {β : Type} {key : String} {read : Reader β} {set : β → α → α}
    (hlt : ∀ {b s r}, read s = .ok (b, r) → r.length < s.length) {b : β} {s r : List Char}
    (h : read s = .ok (b, r)) :
    (Member.ofReader key read set hlt).read s = .ok (set b, r) :=
  congrArg (Except.map fun x : β × List Char => (set x.1, x.2)) h

/-- The rest of an object: its entries, each behind its comma, and the closing brace. -/
def remaining (first : Bool) : List (Entry α) → List Char
  | [] => ['}']
  | e :: es => separator first ++ e.written ++ remaining false es

/-- Entries with commas between them are a first one and then what remains behind it. -/
theorem intercalate_written (e : Entry α) (es : List (Entry α)) :
    [','].intercalate (e.written :: es.map Entry.written) ++ ['}'] =
      e.written ++ remaining false es := by
  induction es generalizing e with
  | nil => rw [List.map_nil, List.intercalate_singleton, remaining]
  | cons e' es ih =>
    rw [List.map_cons, List.intercalate_cons_cons, List.append_assoc, ih e', remaining, separator,
      if_neg Bool.false_ne_true, List.append_assoc, List.append_assoc]

/-- The reader meets the text of an object as its entries from the first one on. -/
theorem writtenObject_entries (es : List (Entry α)) :
    writtenObject (es.map Entry.written) = '{' :: remaining true es := by
  rw [writtenObject, List.cons_append]
  cases es with
  | nil => rfl
  | cons e es =>
    rw [List.map_cons, intercalate_written, remaining, separator, if_pos rfl, List.nil_append]

/-- Behind a value follows a comma or the closing brace. -/
theorem exists_mark_remaining (es : List (Entry α)) :
    ∃ mark r, (mark = ',' ∨ mark = '}') ∧ remaining false es = mark :: r := by
  cases es with
  | nil => exact ⟨'}', [], Or.inr rfl, rfl⟩
  | cons e es => exact ⟨',', e.written ++ remaining false es, Or.inl rfl, rfl⟩

/-- A member that the record knows is read from behind its key. -/
theorem Layout.Reads.readMember {l : Layout α} {e : Entry α} (h : l.Reads e)
    (es : List (Entry α)) (r : List Char) :
    readMember (l.member? e.key) (':' :: (e.value ++ (remaining false es ++ r))) =
      .ok (e.change, remaining false es ++ r) := by
  obtain ⟨m, hm, hread⟩ := h
  obtain ⟨mark, t, hmark, ht⟩ := exists_mark_remaining es
  have hcolon (s : List Char) : colon (':' :: s) = .ok s := rfl
  rw [ht, List.cons_append, Json.readMember, hm, hcolon]
  exact hread mark (t ++ r) hmark

theorem Layout.Reads.isSome {l : Layout α} {e : Entry α} (h : l.Reads e) :
    (l.member? e.key).isSome = true := by
  obtain ⟨m, hm, -⟩ := h
  rw [hm]
  rfl

/-- **The members of an object are read one after the other.**  The reader takes what is left of an
object and makes the changes of its entries, if no key occurs twice or did before. -/
theorem Layout.readMembers_written {l : Layout α} {es : List (Entry α)} {seen : List String}
    (hreads : ∀ e ∈ es, l.Reads e) (hkeys : (es.map Entry.key).Nodup)
    (hseen : ∀ e ∈ es, e.key ∉ seen) (first : Bool) (a : α) (r : List Char) :
    l.readMembers seen first a (remaining first es ++ r) =
      .ok (es.foldl (fun a e => e.change a) a, r) := by
  induction es generalizing seen first a with
  | nil => rw [readMembers_eq, remaining, List.singleton_append, nextKey_close]; rfl
  | cons e es ih =>
    rw [List.map_cons, List.nodup_cons] at hkeys
    have he := hreads e List.mem_cons_self
    have htext : remaining first (e :: es) ++ r =
        separator first ++ (writtenText e.key.toList ++
          (':' :: (e.value ++ (remaining false es ++ r)))) := by
      simp only [remaining, Entry.written, writtenMember, List.append_assoc, List.cons_append]
    -- from here on the key of `e` counts as seen, and no later entry has it
    have hlater : ∀ e' ∈ es, e'.key ∉ e.key :: seen := by
      intro e' he' hmem
      rcases List.mem_cons.mp hmem with heq | hold
      · exact hkeys.1 (List.mem_map.mpr ⟨e', he', heq⟩)
      · exact hseen e' (List.mem_cons_of_mem _ he') hold
    rw [htext, readMembers_eq, nextKey_written]
    simp only [if_neg (hseen e List.mem_cons_self), he.readMember, he.isSome, if_true]
    exact ih (fun e' he' => hreads e' (List.mem_cons_of_mem _ he')) hkeys.2 hlater false
      (e.change a)

/-! ## Documents -/

/-- **A written object is read back**: as the record that its entries make of a new one. -/
theorem Layout.decode_written {l : Layout α} {es : List (Entry α)}
    (hreads : ∀ e ∈ es, l.Reads e) (hkeys : (es.map Entry.key).Nodup) :
    l.decode (String.ofList (writtenObject (es.map Entry.written))) =
      .ok (es.foldl (fun a e => e.change a) l.initial) := by
  have hmembers := readMembers_written hreads hkeys (fun _ _ => List.not_mem_nil) true l.initial []
  rw [List.append_nil] at hmembers
  have hread : l.read ('{' :: remaining true es) = _ := hmembers
  rw [decode, String.toList_ofList, writtenObject_entries, readAll, hread]
  rfl

end Json
end Roster
