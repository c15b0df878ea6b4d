import Roster.Account.Identifier
import Roster.Calendar.Timestamp
import Roster.Json.Record

/-!
# Accounts as documents

An account is written as an object with its id, its nickname and, if it has been stored, the moment
it was created.  Every member may be left out when it is read, and the moment may also be null.
-/

set_option autoImplicit false

namespace Roster
namespace Account

/-- Reads a moment from the text that spells it. -/
def readInstant : Json.Reader Instant := fun s =>
  match Json.readString "an RFC 3339 formatted date and time string" s with
  | .error e => .error e
  | .ok (t, r) =>
    match Timestamp.read t.toList with
    | .ok i => .ok (i, r)
    | .error e => .error (.here (.misspelled e.message) r)

theorem length_lt_of_readInstant {s r : List Char} {i : Instant}
    (h : readInstant s = .ok (i, r)) : r.length < s.length := by
  rw [readInstant] at h
  split at h
  · simp at h
  · rename_i ht
    have := Json.length_lt_of_readString ht
    split at h
    · simp only [Except.ok.injEq, Prod.mk.injEq] at h
      exact h.2 ▸ this
    · simp at h

/-- How an account is laid out in a document. -/
def layout : Json.Layout Account where
  name := "struct Account"
  initial := empty
  members := [
    Json.Member.ofReader "id" (Json.readString "a string")
      (fun id a => { a with id := id }) Json.length_lt_of_readString,
    Json.Member.ofReader "nickname" (Json.readString "a string")
      (fun nickname a => { a with nickname := nickname }) Json.length_lt_of_readString,
    Json.Member.ofReader "created_at" (Json.readOptional readInstant)
      (fun createdAt a => { a with createdAt := createdAt })
      (Json.length_lt_of_readOptional length_lt_of_readInstant)]

/-- The account that a document holds, or what is wrong with the document and where. -/
def ofJson (document : String) : Except Json.Error Account := layout.decode document

/-- The members of an account in their written form. -/
def writtenMembers (a : Account) : List (List Char) :=
  [Json.writtenMember "id" (Json.writtenText a.id.toList),
    Json.writtenMember "nickname" (Json.writtenText a.nickname.toList)] ++
  match a.createdAt with
  | none => []
  | some i => [Json.writtenMember "created_at" (Json.writtenText (Timestamp.write i))]

/-- The document of an account, without blanks. -/
def toJson (a : Account) : String := String.ofList (Json.writtenObject a.writtenMembers)

end Account
end Roster
