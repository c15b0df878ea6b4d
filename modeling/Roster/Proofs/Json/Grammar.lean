import Roster.Proofs.Json.Written

/-!
# The grammar of documents

What a document may look like, said without any reader: every text that the grammar derives is
meant, with whatever blanks, whatever escapes and whatever depth.

* `Spells` — the texts between quotes that stand for a given text; `Quoted` — all texts between
  quotes, also those that stand for none because half of a surrogate pair is alone in them.
* `Numeral` — the numbers.
* `Inside` — what stands between two brackets: values, each behind its label.
* `Value` — the values, of any depth.
* `ObjectOf` and `ListOf` — whole documents that hold one object or one list.
-/

set_option autoImplicit false

namespace Roster
namespace Json

open Text (isDigit)

/-- A text of nothing but the characters that may stand between tokens. -/
def Blanks (s : List Char) : Prop := ∀ c ∈ s, c ∈ [' ', '\t', '\n', '\r']

instance : DecidablePred Blanks := fun s =>
  decidable_of_iff (s.all (· ∈ [' ', '\t', '\n', '\r']) = true) (by simp [Blanks])

/-! ## Texts -/

/-- A character that stands for itself between quotes. -/
def Plain (c : Char) : Prop := c ≠ '"' ∧ c ≠ '\\' ∧ 0x20 ≤ c.toNat

instance : DecidablePred Plain := fun c =>
  inferInstanceAs (Decidable (c ≠ '"' ∧ c ≠ '\\' ∧ 0x20 ≤ c.toNat))

/-- The letters that stand for a character behind a backslash, each with its character. -/
def letters : List (Char × Char) :=
  [('"', '"'), ('\\', '\\'), ('/', '/'), ('b', '\x08'), ('f', '\x0c'), ('n', '\n'), ('r', '\r'),
    ('t', '\t')]

/-- A hexadecimal digit, of either case. -/
def HexDigit (n : Nat) (d : Char) : Prop :=
  n < 16 ∧ (d = Nat.digitChar n ∨ d = (Nat.digitChar n).toUpper)

instance (n : Nat) : DecidablePred (HexDigit n) := fun d =>
  inferInstanceAs (Decidable (n < 16 ∧ (d = Nat.digitChar n ∨ d = (Nat.digitChar n).toUpper)))

/-- The four hexadecimal digits of a number, each of either case. -/
inductive Quad (n : Nat) : List Char → Prop
  | digits {a b c d : Char} : HexDigit (n / 0x1000) a ∧ HexDigit (n / 0x100 % 0x10) b ∧
      HexDigit (n / 0x10 % 0x10) c ∧ HexDigit (n % 0x10) d → Quad n [a, b, c, d]

/-- The ways of spelling a character between quotes: as itself, by a letter, by its code, or by
the codes of a surrogate pair. -/
inductive SpellsChar (c : Char) : List Char → Prop
  | plain : Plain c → SpellsChar c [c]
  | letter {l : Char} : (l, c) ∈ letters → SpellsChar c ['\\', l]
  | code {ds : List Char} : Quad c.toNat ds → SpellsChar c ('\\' :: 'u' :: ds)
  | pair {leading trailing : Nat} {ds es : List Char} :
      0xd800 ≤ leading → leading ≤ 0xdbff → 0xdc00 ≤ trailing → trailing ≤ 0xdfff →
      c.toNat = 0x10000 + (leading - 0xd800) * 0x400 + (trailing - 0xdc00) →
      Quad leading ds → Quad trailing es →
      SpellsChar c ('\\' :: 'u' :: (ds ++ '\\' :: 'u' :: es))

/-- The ways of spelling characters one after the other. -/
inductive SpellsChars : List Char → List Char → Prop
  | nil : SpellsChars [] []
  | cons {c : Char} {t s r : List Char} :
      SpellsChar c s → SpellsChars t r → SpellsChars (c :: t) (s ++ r)

/-- The ways of writing a text between quotes. -/
def Spells (t : String) (s : List Char) : Prop :=
  ∃ body, SpellsChars t.toList body ∧ s = '"' :: (body ++ ['"'])

/-- What may stand between quotes, whether or not it stands for a text. -/
inductive Pieces : List Char → Prop
  | nil : Pieces []
  | plain {c : Char} {r : List Char} : Plain c → Pieces r → Pieces (c :: r)
  | letter {l c : Char} {r : List Char} : (l, c) ∈ letters → Pieces r → Pieces ('\\' :: l :: r)
  | code {n : Nat} {ds r : List Char} :
      Quad n ds → Pieces r → Pieces ('\\' :: 'u' :: (ds ++ r))

/-- The texts between quotes. -/
def Quoted (s : List Char) : Prop := ∃ body, Pieces body ∧ s = '"' :: (body ++ ['"'])

/-! ## Numbers -/

/-- Digits, at least one. -/
def Digits (ds : List Char) : Prop := ds ≠ [] ∧ ∀ d ∈ ds, isDigit d = true

instance : DecidablePred Digits := fun ds =>
  decidable_of_iff (ds ≠ [] ∧ ds.all isDigit = true) (by simp [Digits])

/-- What may stand behind the integer part of a number: a point and digits, or nothing. -/
inductive Fraction : List Char → Prop
  | none : Fraction []
  | digits {ds : List Char} : Digits ds → Fraction ('.' :: ds)

/-- What may stand at the end of a number: a letter, perhaps a sign, and digits, or nothing. -/
inductive Exponent : List Char → Prop
  | none : Exponent []
  | digits {e : Char} {sign ds : List Char} : e = 'e' ∨ e = 'E' → sign ∈ [[], ['+'], ['-']] →
      Digits ds → Exponent (e :: (sign ++ ds))

/-- The numbers: an integer part without zeros in front, perhaps with a minus, a fraction and an
exponent, whatever their range. -/
inductive Numeral : List Char → Prop
  | parts {sign fraction exponent : List Char} (n : Nat) : sign ∈ [[], ['-']] →
      Fraction fraction → Exponent exponent →
      Numeral (sign ++ (Nat.toDigits 10 n ++ (fraction ++ exponent)))

/-! ## Values -/

/-- What stands between two brackets: nothing but blanks, or values with commas between them, each
behind its label.  `first` is whether the next value is the first one. -/
inductive Inside {β : Type} (Label : β → List Char → Prop) :
    Bool → List (β × List Char) → List Char → Prop
  | nil {first : Bool} {b : List Char} : Blanks b → Inside Label first [] b
  | cons {first : Bool} {k : β} {ms : List (β × List Char)} {b l b' v s : List Char} :
      Blanks b → Label k l → Blanks b' → Inside Label false ms s →
      Inside Label first ((k, v) :: ms) (b ++ (separator first ++ (l ++ (b' ++ (v ++ s)))))

/-- The items of a list have no labels. -/
def Unlabelled (_ : Unit) (l : List Char) : Prop := l = []

/-- The label of a member of an object is its key and a colon. -/
def Labelled {β : Type} (Key : β → List Char → Prop) (k : β) (l : List Char) : Prop :=
  ∃ b key b', Blanks b ∧ Key k key ∧ Blanks b' ∧ l = b ++ (key ++ (b' ++ [':']))

/-- One item alone. -/
theorem Inside.single (v : List Char) : Inside Unlabelled true [((), v)] v := by
  have h := @Inside.cons _ Unlabelled true () [] [] [] [] v [] (by decide) rfl (by decide)
    (.nil (by decide))
  rwa [List.append_nil] at h

/-- A member of an object, with blanks in the four places where they may stand. -/
theorem Inside.member {first : Bool} {key : String} {k v s : List Char}
    {ms : List (String × List Char)} (b b₁ b₂ b₃ : List Char)
    (hblanks : Blanks (b ++ (b₁ ++ (b₂ ++ b₃)))) (hk : Spells key k)
    (h : Inside (Labelled Spells) false ms s) :
    Inside (Labelled Spells) first ((key, v) :: ms)
      (b ++ (separator first ++ (b₁ ++ (k ++ (b₂ ++ [':'])) ++ (b₃ ++ (v ++ s))))) := by
  obtain ⟨hb, hblanks⟩ := List.forall_mem_append.mp hblanks
  obtain ⟨hb₁, hblanks⟩ := List.forall_mem_append.mp hblanks
  obtain ⟨hb₂, hb₃⟩ := List.forall_mem_append.mp hblanks
  exact .cons hb ⟨b₁, k, b₂, hb₁, hk, hb₂, rfl⟩ hb₃ h

/-- The three values that are words. -/
def words : List (List Char) :=
  [['n', 'u', 'l', 'l'], ['t', 'r', 'u', 'e'], ['f', 'a', 'l', 's', 'e']]

/-- The values, of any depth. -/
inductive Value : List Char → Prop
  | word {s : List Char} : s ∈ words → Value s
  | number {s : List Char} : Numeral s → Value s
  | text {s : List Char} : Quoted s → Value s
  | list {vs : List (Unit × List Char)} {s : List Char} :
      Inside Unlabelled true vs s → (∀ v ∈ vs, Value v.2) → Value ('[' :: (s ++ [']']))
  | object {ms : List (Unit × List Char)} {s : List Char} :
      Inside (Labelled fun _ => Quoted) true ms s → (∀ m ∈ ms, Value m.2) →
      Value ('{' :: (s ++ ['}']))

theorem Value.single {v : List Char} (h : Value v) : Value ('[' :: (v ++ [']'])) :=
  .list (.single v) (List.forall_mem_singleton.mpr h)

/-- What follows a value inside of brackets: a blank, a comma or the closing bracket. -/
def FollowsValue (s : List Char) : Prop :=
  ∃ c r, c ∈ [' ', '\t', '\n', '\r', ',', ']', '}'] ∧ s = c :: r

/-! ## Documents -/

/-- The documents that hold one object, with the given keys and values as its members in their
order. -/
def ObjectOf (ms : List (String × List Char)) (document : List Char) : Prop :=
  ∃ b s b', Blanks b ∧ Inside (Labelled Spells) true ms s ∧ Blanks b' ∧
    document = b ++ '{' :: (s ++ '}' :: b')

/-- The documents that hold one list, with the given values as its items in their order. -/
def ListOf (vs : List (List Char)) (document : List Char) : Prop :=
  ∃ b s b', Blanks b ∧ Inside Unlabelled true (vs.map fun v => ((), v)) s ∧ Blanks b' ∧
    document = b ++ '[' :: (s ++ ']' :: b')

theorem ListOf.single (v : List Char) : ListOf [v] ('[' :: (v ++ [']'])) :=
  ⟨[], v, [], by decide, .single v, by decide, rfl⟩

end Json
end Roster
