import Roster.Json.Scan
import Roster.Text.Basic

/-!
# Numbers of a document

A number written without fraction and exponent that fits 64 bits is kept exactly.  Every other
number is a floating-point one: its digits are gathered into a significand of at most 64 bits, the
digits for which there is no room only shift the decimal point, and the significand is then scaled
by a power of ten.

* `Number` — the three kinds of numbers.
* `readNumber` — the reader.
* `skipNumber` — passes over a number that nobody will look at.  It asks for the same form but not
  for a range.
-/

set_option autoImplicit false

namespace Roster
namespace Json

open Text (isDigit digitValue leadingDigits afterDigits length_afterDigits_le
  length_afterDigits_lt)

/-- A number of a document.  A negative integer is given by its magnitude, which is positive. -/
inductive Number
  | natural (n : Nat)
  | negative (n : Nat)
  | floating (x : Float)

/-- A number as a message names it. -/
def Number.found : Number → Found
  | .natural n => .integer n
  | .negative n => .integer (-n)
  | .floating x => .floating x

/-! ## Significands -/

/-- The largest number of 64 bits. -/
def maxSignificand : Nat := 18446744073709551615

/-- Appends digits to a significand while there is room, and gives the digits that are left. -/
def gather (m : Nat) : List Char → Nat × List Char
  | [] => (m, [])
  | d :: ds =>
    if 10 * m + digitValue d ≤ maxSignificand then gather (10 * m + digitValue d) ds
    else (m, d :: ds)

/-- Gathering starts at most at the limit and never passes it. -/
theorem gather_le {m : Nat} (h : m ≤ maxSignificand) (ds : List Char) :
    (gather m ds).1 ≤ maxSignificand := by
  induction ds generalizing m with
  | nil => exact h
  | cons d ds ih =>
    rw [gather]
    split
    · rename_i hm
      exact ih hm
    · exact h

/-- A magnitude scaled by a power of ten, in steps that stay within the range of a double.  There
is none if it is too large. -/
def scale (x : Float) (exponent : Int) : Option Float :=
  if exponent.natAbs ≤ 308 then
    let power := Float.ofScientific 1 false exponent.natAbs
    if 0 ≤ exponent then
      if (x * power).isInf then none else some (x * power)
    else some (x / power)
  else if x == 0 then some x
  else if 0 ≤ exponent then none
  else scale (x / 1e308) (exponent + 308)
termination_by (-exponent).toNat
decreasing_by omega

/-- A floating-point number from its sign, its significand and its decimal exponent; what is left
of the text is handed through. -/
def ofParts (negative : Bool) (significand : Nat) (exponent : Int) (rest : List Char) :
    Except Fault (Number × List Char) :=
  match scale (UInt64.ofNat significand).toFloat exponent with
  | none => .error (.here .numberOutOfRange rest)
  | some x => .ok (.floating (if negative then -x else x), rest)

/-! ## Reading -/

/-- The text after an optional sign, and whether the sign is a minus. -/
def takeSign : List Char → Bool × List Char
  | '+' :: r => (false, r)
  | '-' :: r => (true, r)
  | r => (false, r)

theorem length_takeSign_le (s : List Char) : (takeSign s).2.length ≤ s.length := by
  rw [takeSign.eq_def]
  split <;> simp

/-- The largest exponent that may be written, which is the largest number of 31 bits. -/
def maxExponent : Nat := 2147483647

/-- The value of the digits of an exponent, or what is left of them behind the one that makes it
too large. -/
def exponentValue (n : Nat) : List Char → Except (List Char) Nat
  | [] => .ok n
  | d :: ds =>
    if 10 * n + digitValue d ≤ maxExponent then exponentValue (10 * n + digitValue d) ds
    else .error ds

/-- Reads the exponent of a number, from behind its letter.  One that is too large leaves a zero
as it is, and makes any other number either too large or zero. -/
def readExponent (negative : Bool) (significand : Nat) (exponent : Int) (s : List Char) :
    Except Fault (Number × List Char) :=
  let (below, s) := takeSign s
  match s with
  | [] => .error (.here .endInValue [])
  | c :: _ =>
    if isDigit c then
      match exponentValue 0 (leadingDigits s) with
      | .ok e => ofParts negative significand (if below then exponent - e else exponent + e)
          (afterDigits s)
      | .error more =>
        if significand ≠ 0 ∧ below = false then
          .error (.here .numberOutOfRange (more ++ afterDigits s))
        else .ok (.floating (if negative then -0.0 else 0.0), afterDigits s)
    else .error (.next .invalidNumber s)

/-- Reads what may follow the digits of a number that is a floating-point one already. -/
def readScaled (negative : Bool) (significand : Nat) (exponent : Int) (s : List Char) :
    Except Fault (Number × List Char) :=
  match s with
  | 'e' :: r => readExponent negative significand exponent r
  | 'E' :: r => readExponent negative significand exponent r
  | _ => ofParts negative significand exponent s

/-- Reads the fraction of a number, from behind its point. -/
def readFraction (negative : Bool) (significand : Nat) (exponent : Int) (s : List Char) :
    Except Fault (Number × List Char) :=
  match s with
  | [] => .error (.here .endInValue [])
  | c :: _ =>
    if isDigit c then
      let (m, left) := gather significand (leadingDigits s)
      let used := (leadingDigits s).length - left.length
      readScaled negative m (exponent - used) (afterDigits s)
    else .error (.next .invalidNumber s)

/-- An integer, which is a floating-point number if it is a negative zero or below the range of 64
bits with a sign. -/
def ofInteger (negative : Bool) (n : Nat) : Number :=
  if negative then
    if n = 0 ∨ 9223372036854775808 < n then .floating (-(UInt64.ofNat n).toFloat) else .negative n
  else .natural n

/-- Reads what follows the digits of a number. -/
def readTail (negative : Bool) (digits s : List Char) : Except Fault (Number × List Char) :=
  let (m, left) := gather 0 digits
  match s with
  | '.' :: r => readFraction negative m left.length r
  | _ =>
    if left = [] ∧ s.head? ≠ some 'e' ∧ s.head? ≠ some 'E' then .ok (ofInteger negative m, s)
    else readScaled negative m left.length s

/-- Reads a number from its first digit on. -/
def readDigits (negative : Bool) (s : List Char) : Except Fault (Number × List Char) :=
  match s with
  | [] => .error (.here .endInValue [])
  | c :: r =>
    if c = '0' then
      if (r.head?.any isDigit) = true then .error (.next .invalidNumber r)
      else readTail negative ['0'] r
    else if isDigit c then readTail negative (leadingDigits s) (afterDigits s)
    else .error (.next .invalidNumber s)

/-- Reads a number. -/
def readNumber (s : List Char) : Except Fault (Number × List Char) :=
  match s with
  | '-' :: r => readDigits true r
  | _ => readDigits false s

/-! ### What is left gets shorter -/

theorem rest_of_ofParts {negative : Bool} {m : Nat} {e : Int} {s r : List Char} {n : Number}
    (h : ofParts negative m e s = .ok (n, r)) : r = s := by
  rw [ofParts] at h
  split at h
  · simp at h
  · simp only [Except.ok.injEq, Prod.mk.injEq] at h
    exact h.2.symm

theorem length_le_of_readExponent {negative : Bool} {m : Nat} {e : Int} {s r : List Char}
    {n : Number} (h : readExponent negative m e s = .ok (n, r)) : r.length ≤ s.length := by
  have hs := length_takeSign_le s
  have ha := length_afterDigits_le (takeSign s).2
  rw [readExponent] at h
  simp only at h
  split at h
  · simp at h
  · split at h
    · split at h
      · rw [rest_of_ofParts h]
        omega
      · split at h
        · simp at h
        · simp only [Except.ok.injEq, Prod.mk.injEq] at h
          rw [← h.2]
          omega
    · simp at h

theorem length_le_of_readScaled {negative : Bool} {m : Nat} {e : Int} {s r : List Char}
    {n : Number} (h : readScaled negative m e s = .ok (n, r)) : r.length ≤ s.length := by
  rw [readScaled.eq_def] at h
  split at h
  · exact Nat.le_succ_of_le (length_le_of_readExponent h)
  · exact Nat.le_succ_of_le (length_le_of_readExponent h)
  · exact Nat.le_of_eq (congrArg List.length (rest_of_ofParts h))

theorem length_le_of_readFraction {negative : Bool} {m : Nat} {e : Int} {s r : List Char}
    {n : Number} (h : readFraction negative m e s = .ok (n, r)) : r.length ≤ s.length := by
  rw [readFraction.eq_def] at h
  split at h
  · simp at h
  · split at h
    · exact Nat.le_trans (length_le_of_readScaled h) (length_afterDigits_le _)
    · simp at h

theorem length_le_of_readTail {negative : Bool} {ds s r : List Char} {n : Number}
    (h : readTail negative ds s = .ok (n, r)) : r.length ≤ s.length := by
  rw [readTail] at h
  simp only at h
  split at h
  · exact Nat.le_succ_of_le (length_le_of_readFraction h)
  · split at h
    · simp only [Except.ok.injEq, Prod.mk.injEq] at h
      exact Nat.le_of_eq (congrArg List.length h.2.symm)
    · exact length_le_of_readScaled h

theorem length_lt_of_readDigits {negative : Bool} {s r : List Char} {n : Number}
    (h : readDigits negative s = .ok (n, r)) : r.length < s.length := by
  rw [readDigits.eq_def] at h
  split at h
  · simp at h
  · split at h
    · split at h
      · simp at h
      · exact Nat.lt_succ_of_le (length_le_of_readTail h)
    · split at h
      · rename_i hd
        exact Nat.lt_of_le_of_lt (length_le_of_readTail h) (length_afterDigits_lt hd _)
      · simp at h

theorem length_lt_of_readNumber {s r : List Char} {n : Number}
    (h : readNumber s = .ok (n, r)) : r.length < s.length := by
  rw [readNumber.eq_def] at h
  split at h
  · exact Nat.lt_succ_of_lt (length_lt_of_readDigits h)
  · exact length_lt_of_readDigits h

/-! ## Passing over -/

/-- Passes over an exponent, from behind its letter. -/
def skipExponent (s : List Char) : Except Fault (List Char) :=
  let s := (takeSign s).2
  if (s.head?.any isDigit) = true then .ok (afterDigits s) else .error (.next .invalidNumber s)

/-- Passes over the exponent of a number, if it has one. -/
def skipScaled (s : List Char) : Except Fault (List Char) :=
  match s with
  | 'e' :: r => skipExponent r
  | 'E' :: r => skipExponent r
  | _ => .ok s

/-- Passes over the fraction and the exponent of a number, if it has them. -/
def skipTail (s : List Char) : Except Fault (List Char) :=
  match s with
  | '.' :: r =>
    if (r.head?.any isDigit) = true then skipScaled (afterDigits r)
    else .error (.next .invalidNumber r)
  | _ => skipScaled s

/-- Passes over a number from its first digit on. -/
def skipDigits (s : List Char) : Except Fault (List Char) :=
  match s with
  | [] => .error (.here .invalidNumber [])
  | c :: r =>
    if c = '0' then
      if (r.head?.any isDigit) = true then .error (.next .invalidNumber r) else skipTail r
    else if isDigit c then skipTail (afterDigits s)
    else .error (.next .invalidNumber s)

/-- Passes over a number. -/
def skipNumber (s : List Char) : Except Fault (List Char) :=
  match s with
  | '-' :: r => skipDigits r
  | _ => skipDigits s

/-! ### What is left gets shorter -/

theorem length_le_of_skipExponent {s r : List Char} (h : skipExponent s = .ok r) :
    r.length ≤ s.length := by
  rw [skipExponent.eq_def] at h
  simp only at h
  split at h
  · simp only [Except.ok.injEq] at h
    rw [← h]
    exact Nat.le_trans (length_afterDigits_le _) (length_takeSign_le s)
  · simp at h

theorem length_le_of_skipScaled {s r : List Char} (h : skipScaled s = .ok r) :
    r.length ≤ s.length := by
  rw [skipScaled.eq_def] at h
  split at h
  · exact Nat.le_succ_of_le (length_le_of_skipExponent h)
  · exact Nat.le_succ_of_le (length_le_of_skipExponent h)
  · simp only [Except.ok.injEq] at h
    exact Nat.le_of_eq (congrArg List.length h.symm)

theorem length_le_of_skipTail {s r : List Char} (h : skipTail s = .ok r) :
    r.length ≤ s.length := by
  rw [skipTail.eq_def] at h
  split at h
  · split at h
    · exact Nat.le_succ_of_le
        (Nat.le_trans (length_le_of_skipScaled h) (length_afterDigits_le _))
    · simp at h
  · exact length_le_of_skipScaled h

theorem length_lt_of_skipDigits {s r : List Char} (h : skipDigits s = .ok r) :
    r.length < s.length := by
  rw [skipDigits.eq_def] at h
  split at h
  · simp at h
  · split at h
    · split at h
      · simp at h
      · exact Nat.lt_succ_of_le (length_le_of_skipTail h)
    · split at h
      · rename_i hd
        exact Nat.lt_of_le_of_lt (length_le_of_skipTail h) (length_afterDigits_lt hd _)
      · simp at h

theorem length_lt_of_skipNumber {s r : List Char} (h : skipNumber s = .ok r) :
    r.length < s.length := by
  rw [skipNumber.eq_def] at h
  split at h
  · exact Nat.lt_succ_of_lt (length_lt_of_skipDigits h)
  · exact length_lt_of_skipDigits h

end Json
end Roster
