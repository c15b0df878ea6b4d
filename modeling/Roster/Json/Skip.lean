import Roster.Json.Number
import Roster.Json.Text

/-!
# Passing over a value

The value of a member that nobody knows is still read to its end, to find out where it ends and
whether it is one.  The depth to which such a value may nest has no limit: the brackets that are
open at a place are a list beside the text, not calls that wait for each other.

* `skipValue` — passes over the value that starts here.
* `walk` — goes on from a place before or behind a value, inside the brackets that are open there.
* `skipKey` — passes over a key and its colon.
-/

set_option autoImplicit false

namespace Roster
namespace Json

open Text (isDigit)

/-- The two kinds of brackets. -/
inductive Bracket
  | square
  | curly
deriving DecidableEq

/-- The bracket that a character opens, if it opens one. -/
def Bracket.ofOpening? (c : Char) : Option Bracket :=
  if c = '[' then some .square else if c = '{' then some .curly else none

/-- The character that closes a bracket. -/
def Bracket.closing : Bracket → Char
  | .square => ']'
  | .curly => '}'

/-- The document ends inside a bracket. -/
def Bracket.ending : Bracket → Cause
  | .square => .endInList
  | .curly => .endInObject

/-- Neither a comma nor the closing bracket follows a value. -/
def Bracket.expected : Bracket → Cause
  | .square => .expectedListCommaOrEnd
  | .curly => .expectedObjectCommaOrEnd

/-- Passes over a key and the colon behind it. -/
def skipKey (s : List Char) : Except Fault (List Char) :=
  match dropBlanks s with
  | [] => .error (.here .endInObject [])
  | c :: r =>
    if c = '"' then
      match skipText r with
      | .error e => .error e
      | .ok r => colon r
    else .error (.next .keyMustBeText (c :: r))

theorem length_lt_of_skipKey {s r : List Char} (h : skipKey s = .ok r) :
    r.length < s.length := by
  have hs := length_dropBlanks_le s
  rw [skipKey] at h
  split at h
  · simp at h
  · rename_i c t heq
    rw [heq, List.length_cons] at hs
    split at h
    · split at h
      · simp at h
      · rename_i ht
        have h₁ := length_lt_of_skipText ht
        have h₂ := length_lt_of_colon h
        omega
    · simp at h

/-- Passes over what stands in front of a value inside a bracket: a key and its colon in an
object, nothing in a list. -/
def skipLabel (bracket : Bracket) (s : List Char) : Except Fault (List Char) :=
  match bracket with
  | .square => .ok s
  | .curly => skipKey s

theorem length_le_of_skipLabel {b : Bracket} {s r : List Char} (h : skipLabel b s = .ok r) :
    r.length ≤ s.length := by
  cases b with
  | square =>
    simp only [skipLabel, Except.ok.injEq] at h
    exact Nat.le_of_eq (congrArg List.length h.symm)
  | curly => exact Nat.le_of_lt (length_lt_of_skipKey h)

/-- Passes over a value that holds no other: a literal, a number or a text. -/
def skipScalar (s : List Char) : Except Fault (List Char) :=
  match s with
  | [] => .error (.here .endInValue [])
  | c :: r =>
    if c = 'n' then literal ['u', 'l', 'l'] r
    else if c = 't' then literal ['r', 'u', 'e'] r
    else if c = 'f' then literal ['a', 'l', 's', 'e'] r
    else if c = '"' then skipText r
    else if c = '-' ∨ isDigit c = true then skipNumber s
    else .error (.next .expectedValue s)

theorem length_lt_of_skipScalar {s r : List Char} (h : skipScalar s = .ok r) :
    r.length < s.length := by
  rw [skipScalar.eq_def] at h
  split at h
  · simp at h
  · repeat' split at h
    · rw [eq_append_of_literal h]
      simp
      omega
    · rw [eq_append_of_literal h]
      simp
      omega
    · rw [eq_append_of_literal h]
      simp
      omega
    · exact Nat.lt_succ_of_lt (length_lt_of_skipText h)
    · exact length_lt_of_skipNumber h
    · simp at h

/-- A walk over nested values is either in front of a value or behind one. -/
inductive Place
  | before
  | after

/-- Passes over the rest of the values of all open brackets, innermost first.  A place in front of
a value is one where the value has to start; behind one, a comma or the closing bracket follows.
With no bracket open the place behind a value is the end of the walk. -/
def walk (place : Place) (enclosing : List Bracket) (s : List Char) : Except Fault (List Char) :=
  match place, enclosing with
  | .after, [] => .ok s
  | .after, bracket :: outer =>
    match _hs : dropBlanks s with
    | [] => .error (.here bracket.ending [])
    | c :: r =>
      if c = ',' then
        match _hr : skipLabel bracket r with
        | .error e => .error e
        | .ok r => walk .before (bracket :: outer) r
      else if c = bracket.closing then walk .after outer r
      else .error (.next bracket.expected (c :: r))
  | .before, _ =>
    match _hs : dropBlanks s with
    | [] => .error (.here .endInValue [])
    | c :: r =>
      match Bracket.ofOpening? c with
      | some bracket =>
        match _ht : dropBlanks r with
        | [] => .error (.here bracket.ending [])
        | d :: t =>
          if d = bracket.closing then walk .after enclosing t
          else
            match _hl : skipLabel bracket (d :: t) with
            | .error e => .error e
            | .ok t => walk .before (bracket :: enclosing) t
      | none =>
        match _hr : skipScalar (c :: r) with
        | .error e => .error e
        | .ok r => walk .after enclosing r
termination_by s.length
decreasing_by
  · have h₁ := length_dropBlanks_le s
    have h₂ := length_le_of_skipLabel _hr
    rw [_hs, List.length_cons] at h₁
    omega
  · have h₁ := length_dropBlanks_le s
    rw [_hs, List.length_cons] at h₁
    omega
  · have h₁ := length_dropBlanks_le s
    have h₂ := length_dropBlanks_le r
    rw [_hs, List.length_cons] at h₁
    rw [_ht, List.length_cons] at h₂
    omega
  · have h₁ := length_dropBlanks_le s
    have h₂ := length_dropBlanks_le r
    have h₃ := length_le_of_skipLabel _hl
    rw [_hs, List.length_cons] at h₁
    rw [_ht] at h₂
    omega
  · have h₁ := length_dropBlanks_le s
    have h₂ := length_lt_of_skipScalar _hr
    rw [_hs] at h₁
    omega

/-- With no bracket open the walk is over behind a value. -/
theorem walk_nil (s : List Char) : walk .after [] s = .ok s := by
  rw [walk.eq_def]

/-- Inside a bracket a comma or the closing bracket follows a value. -/
theorem walk_after_cons (b : Bracket) (outer : List Bracket) (s : List Char) :
    walk .after (b :: outer) s =
      match dropBlanks s with
      | [] => .error (.here b.ending [])
      | c :: r =>
        if c = ',' then
          match skipLabel b r with
          | .error e => .error e
          | .ok r => walk .before (b :: outer) r
        else if c = b.closing then walk .after outer r
        else .error (.next b.expected (c :: r)) := by
  rw [walk.eq_def]
  dsimp only
  split <;> rename_i h <;> rw [h]
  dsimp only
  split
  · split <;> rename_i h <;> rw [h]
  · rfl

/-- A value is a bracket, which may close at once, or a scalar. -/
theorem walk_before (enclosing : List Bracket) (s : List Char) :
    walk .before enclosing s =
      match dropBlanks s with
      | [] => .error (.here .endInValue [])
      | c :: r =>
        match Bracket.ofOpening? c with
        | some b =>
          match dropBlanks r with
          | [] => .error (.here b.ending [])
          | d :: t =>
            if d = b.closing then walk .after enclosing t
            else
              match skipLabel b (d :: t) with
              | .error e => .error e
              | .ok t => walk .before (b :: enclosing) t
        | none =>
          match skipScalar (c :: r) with
          | .error e => .error e
          | .ok r => walk .after enclosing r := by
  rw [walk.eq_def]
  dsimp only
  split
  · rename_i h
    rw [h]
  · rename_i c r h
    rw [h]
    dsimp only
    cases Bracket.ofOpening? c with
    | some b =>
      dsimp only
      split <;> rename_i h <;> rw [h]
      dsimp only
      split
      · rfl
      · split <;> rename_i h <;> rw [h]
    | none =>
      dsimp only
      split <;> rename_i h <;> rw [h]

/-- A walk uses up text, and at least one character if it starts in front of a value. -/
theorem length_of_walk {p : Place} {e : List Bracket} {s r : List Char}
    (h : walk p e s = .ok r) :
    r.length ≤ s.length ∧ (p = .before → r.length < s.length) := by
  fun_induction walk p e s generalizing r with
  | case1 s =>
    simp only [Except.ok.injEq] at h
    exact ⟨Nat.le_of_eq (congrArg List.length h.symm), nofun⟩
  | case2 => simp at h
  | case3 => simp at h
  | case4 s b outer r₀ r₁ hl hs ih =>
    have h₁ := length_dropBlanks_le s
    have h₂ := length_le_of_skipLabel hl
    have h₃ := (ih h).1
    rw [hs, List.length_cons] at h₁
    exact ⟨by omega, nofun⟩
  | case5 s b outer r₀ hs _ ih =>
    have h₁ := length_dropBlanks_le s
    have h₃ := (ih h).1
    rw [hs, List.length_cons] at h₁
    exact ⟨by omega, nofun⟩
  | case6 => simp at h
  | case7 => simp at h
  | case8 => simp at h
  | case9 e s c r₀ hs b _ t ht ih =>
    have h₁ := length_dropBlanks_le s
    have h₂ := length_dropBlanks_le r₀
    have h₃ := (ih h).1
    rw [hs, List.length_cons] at h₁
    rw [ht, List.length_cons] at h₂
    exact ⟨by omega, fun _ => by omega⟩
  | case10 => simp at h
  | case11 e s c r₀ hs b _ d t ht _ t₁ hl ih =>
    have h₁ := length_dropBlanks_le s
    have h₂ := length_dropBlanks_le r₀
    have h₃ := length_le_of_skipLabel hl
    have h₄ := (ih h).1
    rw [hs, List.length_cons] at h₁
    rw [ht] at h₂
    exact ⟨by omega, fun _ => by omega⟩
  | case12 => simp at h
  | case13 e s c r₀ hs _ r₁ hr ih =>
    have h₁ := length_dropBlanks_le s
    have h₂ := length_lt_of_skipScalar hr
    have h₃ := (ih h).1
    rw [hs] at h₁
    exact ⟨by omega, fun _ => by omega⟩

/-- Passes over the value that starts here. -/
def skipValue (s : List Char) : Except Fault (List Char) := walk .before [] s

theorem length_lt_of_skipValue {s r : List Char} (h : skipValue s = .ok r) :
    r.length < s.length :=
  (length_of_walk h).2 rfl

end Json
end Roster
