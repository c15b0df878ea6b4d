import Roster.Json.Scan

/-!
# Texts between quotes

A text of a document stands between double quotes.  A backslash starts an escape: one letter for a
common character, or `u` and four hexadecimal digits for a UTF-16 unit, two such escapes for a
character beyond the first plane.  A control character may not stand there as itself.

* `readText` — the reader, called after the opening quote.
* `skipText` — the same for a text that nobody will look at.  It holds escapes to their form only,
  and does not ask whether surrogates pair up.
* `writtenText` — the writer, which escapes only what it must.
-/

set_option autoImplicit false

namespace Roster
namespace Json

/-! ## Escapes -/

/-- The value of a hexadecimal digit, of either case. -/
def hexValue (c : Char) : Option Nat :=
  if '0' ≤ c ∧ c ≤ '9' then some (c.toNat - 0x30)
  else if 'a' ≤ c ∧ c ≤ 'f' then some (c.toNat - 0x57)
  else if 'A' ≤ c ∧ c ≤ 'F' then some (c.toNat - 0x37)
  else none

/-- The value of four hexadecimal digits. -/
def quadValue (a b c d : Char) : Option Nat := do
  let a ← hexValue a
  let b ← hexValue b
  let c ← hexValue c
  let d ← hexValue d
  return a * 0x1000 + b * 0x100 + c * 0x10 + d

/-- The four digits of an escape could not be read: either the document ends before them, or the
next four bytes are something else. -/
def quadFault (s : List Char) : Fault :=
  if Text.byteLength s < 4 then .here .endInText [] else ⟨.invalidEscape, s, 4⟩

/-- Reads four hexadecimal digits. -/
def readQuad (s : List Char) : Except Fault (Nat × List Char) :=
  match s with
  | a :: b :: c :: d :: r =>
    match quadValue a b c d with
    | some n => .ok (n, r)
    | none => .error (quadFault s)
  | _ => .error (quadFault s)

theorem length_lt_of_readQuad {s r : List Char} {n : Nat} (h : readQuad s = .ok (n, r)) :
    r.length < s.length := by
  rw [readQuad.eq_def] at h
  split at h
  · split at h
    · simp only [Except.ok.injEq, Prod.mk.injEq] at h
      simp only [← h.2, List.length_cons]
      omega
    · simp at h
  · simp at h

/-- Reads one given character on the way to the second half of a surrogate pair. -/
def readPairMark (mark : Char) (s : List Char) : Except Fault (List Char) :=
  match s with
  | [] => .error (.here .endInText [])
  | c :: r => if c = mark then .ok r else .error (.next .unfinishedPair s)

theorem length_lt_of_readPairMark {mark : Char} {s r : List Char}
    (h : readPairMark mark s = .ok r) : r.length < s.length := by
  rw [readPairMark.eq_def] at h
  split at h
  · simp at h
  · split at h
    · simp only [Except.ok.injEq] at h
      simp [← h]
    · simp at h

/-- Whether a UTF-16 unit is the first half of a surrogate pair. -/
def isLeading (n : Nat) : Bool := 0xd800 ≤ n && n ≤ 0xdbff

/-- Whether a UTF-16 unit is the second half of a surrogate pair. -/
def isTrailing (n : Nat) : Bool := 0xdc00 ≤ n && n ≤ 0xdfff

/-- The character that a surrogate pair stands for. -/
def ofPair (leading trailing : Nat) : Char :=
  Char.ofNat (0x10000 + (leading - 0xd800) * 0x400 + (trailing - 0xdc00))

/-- Reads the character that an escape by code stands for, from behind its `u`. -/
def readUnits (s : List Char) : Except Fault (Char × List Char) :=
  match readQuad s with
  | .error e => .error e
  | .ok (n, r) =>
    if isTrailing n then .error (.here .loneSurrogate r)
    else if isLeading n then
      match readPairMark '\\' r with
      | .error e => .error e
      | .ok r =>
        match readPairMark 'u' r with
        | .error e => .error e
        | .ok r =>
          match readQuad r with
          | .error e => .error e
          | .ok (m, r) =>
            if isTrailing m then .ok (ofPair n m, r) else .error (.here .loneSurrogate r)
    else .ok (Char.ofNat n, r)

theorem length_lt_of_readUnits {s r : List Char} {c : Char} (h : readUnits s = .ok (c, r)) :
    r.length < s.length := by
  rw [readUnits] at h
  split at h
  · simp at h
  · rename_i n r₀ h₀
    have l₀ := length_lt_of_readQuad h₀
    split at h
    · simp at h
    split at h
    · split at h
      · simp at h
      rename_i r₁ h₁
      have l₁ := length_lt_of_readPairMark h₁
      split at h
      · simp at h
      rename_i r₂ h₂
      have l₂ := length_lt_of_readPairMark h₂
      split at h
      · simp at h
      rename_i m r₃ h₃
      have l₃ := length_lt_of_readQuad h₃
      split at h
      · simp only [Except.ok.injEq, Prod.mk.injEq] at h
        rw [← h.2]
        omega
      · simp at h
    · simp only [Except.ok.injEq, Prod.mk.injEq] at h
      rw [← h.2]
      exact l₀

/-- The character that a single letter after a backslash stands for. -/
def letterEscape (c : Char) : Option Char :=
  if c = '"' ∨ c = '\\' ∨ c = '/' then some c
  else if c = 'b' then some '\x08'
  else if c = 'f' then some '\x0c'
  else if c = 'n' then some '\n'
  else if c = 'r' then some '\r'
  else if c = 't' then some '\t'
  else none

/-- Reads the character that an escape stands for, from behind its backslash. -/
def readEscape (s : List Char) : Except Fault (Char × List Char) :=
  match s with
  | [] => .error (.here .endInText [])
  | c :: r =>
    match letterEscape c with
    | some d => .ok (d, r)
    | none => if c = 'u' then readUnits r else .error (.next .invalidEscape s)

theorem length_lt_of_readEscape {s r : List Char} {c : Char} (h : readEscape s = .ok (c, r)) :
    r.length < s.length := by
  rw [readEscape.eq_def] at h
  split at h
  · simp at h
  · split at h
    · simp only [Except.ok.injEq, Prod.mk.injEq] at h
      simp [← h.2]
    · split at h
      · have := length_lt_of_readUnits h
        rw [List.length_cons]
        omega
      · simp at h

/-- Passes over an escape, from behind its backslash, without asking what it stands for. -/
def skipEscape (s : List Char) : Except Fault (List Char) :=
  match s with
  | [] => .error (.here .endInText [])
  | c :: r =>
    match letterEscape c with
    | some _ => .ok r
    | none =>
      if c = 'u' then
        match readQuad r with
        | .error e => .error e
        | .ok (_, r) => .ok r
      else .error (.next .invalidEscape s)

theorem length_lt_of_skipEscape {s r : List Char} (h : skipEscape s = .ok r) :
    r.length < s.length := by
  rw [skipEscape.eq_def] at h
  split at h
  · simp at h
  · split at h
    · simp only [Except.ok.injEq] at h
      simp [← h]
    · split at h
      · split at h
        · simp at h
        · rename_i hq
          have := length_lt_of_readQuad hq
          simp only [Except.ok.injEq] at h
          rw [← h, List.length_cons]
          omega
      · simp at h

/-! ## Whole texts -/

/-- Whether a character may not stand for itself between the quotes. -/
def isControl (c : Char) : Bool := c.toNat < 0x20

/-- Reads a text up to its closing quote, from behind its opening quote. -/
def readText (s : List Char) : Except Fault (List Char × List Char) :=
  match s with
  | [] => .error (.here .endInText [])
  | c :: r =>
    if c = '"' then .ok ([], r)
    else if c = '\\' then
      match _h : readEscape r with
      | .error e => .error e
      | .ok (d, r') =>
        match readText r' with
        | .error e => .error e
        | .ok (t, rest) => .ok (d :: t, rest)
    else if isControl c then .error (.next .controlCharacter s)
    else
      match readText r with
      | .error e => .error e
      | .ok (t, rest) => .ok (c :: t, rest)
termination_by s.length
decreasing_by
  · have := length_lt_of_readEscape _h
    simp only [List.length_cons]
    omega
  · simp

/-- What the next character of a text does. -/
theorem readText_cons (c : Char) (r : List Char) :
    readText (c :: r) =
      if c = '"' then .ok ([], r)
      else if c = '\\' then
        match readEscape r with
        | .error e => .error e
        | .ok (d, r) => (readText r).map fun (t, rest) => (d :: t, rest)
      else if isControl c then .error (.next .controlCharacter (c :: r))
      else (readText r).map fun (t, rest) => (c :: t, rest) := by
  rw [readText.eq_def]
  dsimp only
  split
  · rfl
  · split
    · split
      · rename_i h
        rw [h]
      · rename_i d r' h
        rw [h]
        dsimp only
        cases readText r' <;> rfl
    · split
      · rfl
      · cases readText r <;> rfl

theorem length_lt_of_readText {s t r : List Char} (h : readText s = .ok (t, r)) :
    r.length < s.length := by
  fun_induction readText s generalizing t r with
  | case1 => simp at h
  | case2 => simp_all
  | case3 => simp at h
  | case4 => simp at h
  | case5 r₀ d r' he u rest ht _ ih =>
    have h₁ := length_lt_of_readEscape he
    have h₂ := ih ht
    simp only [Except.ok.injEq, Prod.mk.injEq] at h
    rw [← h.2, List.length_cons]
    omega
  | case6 => simp at h
  | case7 => simp at h
  | case8 c r₀ _ _ _ u rest ht ih =>
    have h₂ := ih ht
    simp only [Except.ok.injEq, Prod.mk.injEq] at h
    rw [← h.2, List.length_cons]
    omega

/-- Passes over a text up to its closing quote, from behind its opening quote.  A control
character is reported in front of it. -/
def skipText (s : List Char) : Except Fault (List Char) :=
  match s with
  | [] => .error (.here .endInText [])
  | c :: r =>
    if c = '"' then .ok r
    else if c = '\\' then
      match _h : skipEscape r with
      | .error e => .error e
      | .ok r' => skipText r'
    else if isControl c then .error (.here .controlCharacter s)
    else skipText r
termination_by s.length
decreasing_by
  · have := length_lt_of_skipEscape _h
    simp only [List.length_cons]
    omega
  · simp

/-- What the next character of a text that is passed over does. -/
theorem skipText_cons (c : Char) (r : List Char) :
    skipText (c :: r) =
      if c = '"' then .ok r
      else if c = '\\' then
        match skipEscape r with
        | .error e => .error e
        | .ok r => skipText r
      else if isControl c then .error (.here .controlCharacter (c :: r))
      else skipText r := by
  rw [skipText.eq_def]
  dsimp only
  split
  · rfl
  · split
    · split <;> rename_i h <;> rw [h]
    · rfl

theorem length_lt_of_skipText {s r : List Char} (h : skipText s = .ok r) :
    r.length < s.length := by
  fun_induction skipText s with
  | case1 => simp at h
  | case2 => simp_all
  | case3 => simp at h
  | case4 r₀ r' he _ ih =>
    have h₁ := length_lt_of_skipEscape he
    have h₂ := ih h
    rw [List.length_cons]
    omega
  | case5 => simp at h
  | case6 c r₀ _ _ _ ih =>
    have h₂ := ih h
    rw [List.length_cons]
    omega

/-! ## Writing -/

/-- How a character is written between quotes.  The quote, the backslash and the controls are
escaped, seven of them by a letter and the other controls by code; all else stands for itself. -/
def writtenChar (c : Char) : List Char :=
  if c = '"' then ['\\', '"']
  else if c = '\\' then ['\\', '\\']
  else if c = '\x08' then ['\\', 'b']
  else if c = '\x0c' then ['\\', 'f']
  else if c = '\n' then ['\\', 'n']
  else if c = '\r' then ['\\', 'r']
  else if c = '\t' then ['\\', 't']
  else if isControl c then
    ['\\', 'u', '0', '0', Nat.digitChar (c.toNat / 16), Nat.digitChar (c.toNat % 16)]
  else [c]

/-- A text between its quotes. -/
def writtenText (s : List Char) : List Char := '"' :: s.flatMap writtenChar ++ ['"']

end Json
end Roster
