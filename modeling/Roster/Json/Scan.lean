import Roster.Json.Fault

/-!
# Reading the tokens of a document

A reader takes the text that is left and gives a value and what is left after it, or a fault.  The
ones here read the small things: blanks, literals, the marks between values.  Each comes with the
lemma that it never gives back more text than it was given, which is what lets the readers of
larger things call it and stop.
-/

set_option autoImplicit false

namespace Roster
namespace Json

/-- A reader of values of type `α` from the text that is left. -/
abbrev Reader (α : Type) := List Char → Except Fault (α × List Char)

/-- The four characters that may stand between tokens. -/
def isBlank (c : Char) : Bool := c == ' ' || c == '\n' || c == '\t' || c == '\r'

/-- The text after its leading blanks. -/
def dropBlanks (s : List Char) : List Char := s.dropWhile isBlank

theorem length_dropBlanks_le (s : List Char) : (dropBlanks s).length ≤ s.length :=
  (List.dropWhile_suffix isBlank).length_le

/-- What is left after blanks does not start with one. -/
theorem isBlank_head_dropBlanks {s r : List Char} {c : Char} (h : dropBlanks s = c :: r) :
    isBlank c = false := by
  induction s with
  | nil => simp [dropBlanks] at h
  | cons d s ih =>
    by_cases hd : isBlank d = true
    · exact ih (by simpa [dropBlanks, hd] using h)
    · simp only [dropBlanks, List.dropWhile_cons, hd] at h
      simp only [Bool.false_eq_true, ↓reduceIte, List.cons.injEq] at h
      exact h.1 ▸ by simpa using hd

/-- A text whose first character is no blank is left as it is. -/
theorem dropBlanks_cons {c : Char} (h : isBlank c = false) (s : List Char) :
    dropBlanks (c :: s) = c :: s := by
  simp [dropBlanks, h]

/-- Reads the given letters. -/
def literal : List Char → List Char → Except Fault (List Char)
  | [], s => .ok s
  | _ :: _, [] => .error (.here .endInValue [])
  | w :: ws, c :: s => if c = w then literal ws s else .error (.next .expectedIdent (c :: s))

/-- A literal is taken off the front of the text. -/
theorem eq_append_of_literal {w s r : List Char} (h : literal w s = .ok r) : s = w ++ r := by
  induction w generalizing s with
  | nil => simpa [literal] using h
  | cons a w ih =>
    cases s with
    | nil => simp [literal] at h
    | cons c s =>
      simp only [literal] at h
      split at h
      · rename_i hc
        rw [hc, ih h, List.cons_append]
      · simp at h

theorem literal_append (w r : List Char) : literal w (w ++ r) = .ok r := by
  induction w with
  | nil => rfl
  | cons a w ih => simp [literal, ih]

/-- Reads the colon between a key and its value, and the blanks before it. -/
def colon (s : List Char) : Except Fault (List Char) :=
  match dropBlanks s with
  | [] => .error (.here .endInObject [])
  | c :: r => if c = ':' then .ok r else .error (.next .expectedColon (c :: r))

theorem length_lt_of_colon {s r : List Char} (h : colon s = .ok r) : r.length < s.length := by
  have hs := length_dropBlanks_le s
  rw [colon] at h
  split at h
  · simp at h
  · rename_i c t heq
    split at h
    · simp only [Except.ok.injEq] at h
      subst h
      rw [heq, List.length_cons] at hs
      omega
    · simp at h

end Json
end Roster
