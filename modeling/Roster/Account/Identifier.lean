import Roster.Calendar.Instant

/-!
# Accounts and their ids

A tracked player account: its id, the name it is displayed under, and the moment it was first
stored, if it has been stored.

* `Account` — an account, and `Account.stamped`, the account as a store keeps it.
* `Identifier.generate` — the id that sixteen bytes make.
* `Identifier.isRandom` — whether a text has the shape of such an id.
* `Account.register` — a new account with a generated id.
-/

set_option autoImplicit false

namespace Roster

/-- A tracked player account. -/
structure Account where
  id : String
  nickname : String
  createdAt : Option Instant
deriving DecidableEq

namespace Account

/-- The account with nothing in it. -/
def empty : Account := ⟨"", "", none⟩

/-- An account with the given id and nothing else. -/
def withId (id : String) : Account := { empty with id := id }

/-- The account as a store keeps it from the moment `now` on: one that was never stored before is
stamped with that moment. -/
def stamped (a : Account) (now : Instant) : Account :=
  { a with createdAt := some (a.createdAt.getD now) }

theorem id_stamped (a : Account) (now : Instant) : (a.stamped now).id = a.id := rfl

end Account

/-! ## Generated ids

The id of a registered account is made from sixteen random bytes.  Six of their bits are replaced
by the version and the variant of a random UUID; then the bytes are written in lower-case
hexadecimal, in groups of four, two, two, two and six with hyphens between them. -/

namespace Identifier

/-- A byte in two lower-case hexadecimal digits. -/
def byteDigits (b : UInt8) : List Char :=
  [Nat.digitChar (b.toNat / 16), Nat.digitChar (b.toNat % 16)]

/-- The bytes with the version in the upper half of the seventh and the variant in the upper two
bits of the ninth. -/
def stamp (bytes : Vector UInt8 16) : Vector UInt8 16 :=
  (bytes.set 6 (bytes[6] &&& 0x0f ||| 0x40)).set 8 (bytes[8] &&& 0x3f ||| 0x80)

/-- Sixteen bytes in five hyphenated groups. -/
def hyphenated (bytes : Vector UInt8 16) : List Char :=
  let digits := bytes.toList.map byteDigits
  (digits.take 4).flatten ++
    '-' :: ((digits.drop 4).take 2).flatten ++
    '-' :: ((digits.drop 6).take 2).flatten ++
    '-' :: ((digits.drop 8).take 2).flatten ++
    '-' :: (digits.drop 10).flatten

/-- The id that sixteen random bytes make. -/
def generate (bytes : Vector UInt8 16) : String := String.ofList (hyphenated (stamp bytes))

/-- Whether a character is a lower-case hexadecimal digit. -/
def isLowerHex (c : Char) : Bool := ('0' ≤ c && c ≤ '9') || ('a' ≤ c && c ≤ 'f')

/-- Whether a character may stand at an index of a generated id. -/
def fits (index : Nat) (c : Char) : Bool :=
  if index = 8 ∨ index = 13 ∨ index = 18 ∨ index = 23 then c == '-'
  else if index = 14 then c == '4'
  else if index = 19 then c == '8' || c == '9' || c == 'a' || c == 'b'
  else isLowerHex c

/-- Whether a text has the shape of a generated id. -/
def isRandom (id : String) : Bool :=
  id.toList.length == 36 && id.toList.zipIdx.all fun (c, index) => fits index c

end Identifier

/-- A new account with the given nickname and an id made from random bytes. -/
def Account.register (nickname : String) (bytes : Vector UInt8 16) : Account :=
  ⟨Identifier.generate bytes, nickname, none⟩

end Roster
