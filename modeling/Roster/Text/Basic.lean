/-!
# Texts as lists of characters

What the readers and the writers of documents and moments share.

* `byteLength` — the length of a text in bytes of UTF-8; lengths and columns are counted in bytes,
  not in characters.
* `leadingDigits` and `afterDigits` — the run of digits that a text starts with, and what follows.
* `spelled` — the number that digits spell, and `padded`, the digits that spell a number.
-/

set_option autoImplicit false

namespace Roster
namespace Text

/-! ## Bytes -/

/-- How many bytes a text takes up in UTF-8. -/
def byteLength : List Char → Nat
  | [] => 0
  | c :: s => c.utf8Size + byteLength s

theorem byteLength_cons (c : Char) (s : List Char) :
    byteLength (c :: s) = c.utf8Size + byteLength s := rfl

theorem utf8ByteSize_ofList (s : List Char) :
    (String.ofList s).utf8ByteSize = byteLength s := by
  induction s with
  | nil => rfl
  | cons c s ih =>
    rw [String.ofList_cons, String.utf8ByteSize_append, String.utf8ByteSize_singleton, ih,
      byteLength_cons]

/-- The size of a string is the length of its characters in bytes. -/
theorem utf8ByteSize_eq (s : String) : s.utf8ByteSize = byteLength s.toList := by
  rw [← utf8ByteSize_ofList, String.ofList_toList]

/-! ## Decimal digits -/

/-- Whether a character is one of the ten digits. -/
def isDigit (c : Char) : Bool := '0' ≤ c && c ≤ '9'

/-- The value of a digit. -/
def digitValue (c : Char) : Nat := c.toNat - 0x30

/-- The digits that a text starts with. -/
def leadingDigits (s : List Char) : List Char := s.takeWhile isDigit

/-- The text after the digits that it starts with. -/
def afterDigits (s : List Char) : List Char := s.dropWhile isDigit

theorem length_afterDigits_le (s : List Char) : (afterDigits s).length ≤ s.length :=
  (List.dropWhile_suffix isDigit).length_le

/-- After a digit the text gets shorter. -/
theorem length_afterDigits_lt {c : Char} (h : isDigit c = true) (s : List Char) :
    (afterDigits (c :: s)).length < (c :: s).length := by
  have := length_afterDigits_le s
  simp only [afterDigits, List.dropWhile_cons, h, ↓reduceIte, List.length_cons]
  exact Nat.lt_succ_of_le this

/-- The number that digits spell when they follow the digits of another number. -/
def spelled (n : Nat) (digits : List Char) : Nat :=
  digits.foldl (fun n d => 10 * n + digitValue d) n

theorem spelled_nil (n : Nat) : spelled n [] = n := rfl

theorem spelled_cons (n : Nat) (d : Char) (ds : List Char) :
    spelled n (d :: ds) = spelled (10 * n + digitValue d) ds := List.foldl_cons ..

theorem spelled_append (n : Nat) (ds es : List Char) :
    spelled n (ds ++ es) = spelled (spelled n ds) es := by
  simp [spelled, List.foldl_append]

/-- A number with at least `width` digits, zeros in front where it has fewer. -/
def padded (width n : Nat) : List Char :=
  let digits := Nat.toDigits 10 n
  List.replicate (width - digits.length) '0' ++ digits

end Text
end Roster
