import Roster.Json.Number
import Roster.Json.Text

/-!
# Values of a given type

Readers of the values that members of a record hold.  A value of another type is read to its end
first, so that the message can name it, except that a list or an object is not opened.
-/

set_option autoImplicit false

namespace Roster
namespace Json

open Text (isDigit)

/-- The fault of a value that is read to its end and then found to be of the wrong type. -/
def misfit {α : Type} (found : α → Found) (expected : String) :
    Except Fault (α × List Char) → Fault
  | .error e => e
  | .ok (a, r) => .here (.invalidType (found a) expected) r

/-- Reads a literal and gives what it stands for. -/
def readWord {α : Type} (letters : List Char) (a : α) : Reader α := fun s =>
  match literal letters s with
  | .error e => .error e
  | .ok r => .ok (a, r)

/-- The fault of a text that starts with a value of another type than the expected one. -/
def unexpected (expected : String) (s : List Char) : Fault :=
  match s with
  | [] => .here .endInValue []
  | c :: r =>
    if c = 'n' then misfit id expected (readWord ['u', 'l', 'l'] Found.null r)
    else if c = 't' then misfit .boolean expected (readWord ['r', 'u', 'e'] true r)
    else if c = 'f' then misfit .boolean expected (readWord ['a', 'l', 's', 'e'] false r)
    else if c = '"' then misfit (.text ∘ String.ofList) expected (readText r)
    else if c = '-' ∨ isDigit c = true then misfit Number.found expected (readNumber s)
    else if c = '[' then .here (.invalidType .sequence expected) s
    else if c = '{' then .here (.invalidType .map expected) s
    else .next .expectedValue s

/-- Reads a text and the blanks before it. -/
def readString (expected : String) : Reader String := fun s =>
  match dropBlanks s with
  | [] => .error (.here .endInValue [])
  | c :: r =>
    if c = '"' then
      match readText r with
      | .error e => .error e
      | .ok (t, r) => .ok (String.ofList t, r)
    else .error (unexpected expected (c :: r))

theorem length_lt_of_readString {expected t : String} {s r : List Char}
    (h : readString expected s = .ok (t, r)) : r.length < s.length := by
  have hs := length_dropBlanks_le s
  rw [readString] at h
  split at h
  · simp at h
  · rename_i heq
    rw [heq, List.length_cons] at hs
    split at h
    · split at h
      · simp at h
      · rename_i ht
        have := length_lt_of_readText ht
        simp only [Except.ok.injEq, Prod.mk.injEq] at h
        rw [← h.2]
        omega
    · simp at h

/-- Reads a natural number of 64 bits and the blanks before it. -/
def readNatural (expected : String) : Reader Nat := fun s =>
  match dropBlanks s with
  | [] => .error (.here .endInValue [])
  | c :: r =>
    if c = '-' ∨ isDigit c = true then
      match readNumber (c :: r) with
      | .error e => .error e
      | .ok (.natural n, r) => .ok (n, r)
      | .ok (.negative n, r) =>
        .error (.here (.invalidValue (Number.negative n).found expected) r)
      | .ok (.floating x, r) =>
        .error (.here (.invalidType (Number.floating x).found expected) r)
    else .error (unexpected expected (c :: r))

theorem length_lt_of_readNatural {expected : String} {n : Nat} {s r : List Char}
    (h : readNatural expected s = .ok (n, r)) : r.length < s.length := by
  have hs := length_dropBlanks_le s
  rw [readNatural] at h
  split at h
  · simp at h
  · rename_i heq
    rw [heq] at hs
    split at h
    · split at h
      · simp at h
      · rename_i hn
        have := length_lt_of_readNumber hn
        simp only [Except.ok.injEq, Prod.mk.injEq] at h
        rw [← h.2]
        omega
      · simp at h
      · simp at h
    · simp at h

/-- Reads `null` as nothing, and every other value by the given reader.  The blanks before it are
passed over. -/
def readOptional {α : Type} (read : Reader α) : Reader (Option α) := fun s =>
  match dropBlanks s with
  | 'n' :: r => readWord ['u', 'l', 'l'] none r
  | s =>
    match read s with
    | .error e => .error e
    | .ok (a, r) => .ok (some a, r)

theorem length_lt_of_readOptional {α : Type} {read : Reader α}
    (hr : ∀ {a s r}, read s = .ok (a, r) → r.length < s.length)
    {a : Option α} {s r : List Char} (h : readOptional read s = .ok (a, r)) :
    r.length < s.length := by
  have hs := length_dropBlanks_le s
  rw [readOptional] at h
  split at h
  · rename_i heq
    rw [heq, List.length_cons] at hs
    rw [readWord] at h
    split at h
    · simp at h
    · rename_i hw
      have := congrArg List.length (eq_append_of_literal hw)
      simp only [Except.ok.injEq, Prod.mk.injEq] at h
      simp only [List.length_append] at this
      rw [← h.2]
      omega
  · split at h
    · simp at h
    · rename_i ha
      have := hr ha
      simp only [Except.ok.injEq, Prod.mk.injEq] at h
      rw [← h.2]
      omega

end Json
end Roster
