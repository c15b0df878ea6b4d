import Roster.Account.Document
import Roster.Proofs.Calendar.Timestamp
import Roster.Proofs.Json.Written

/-!
# Accounts survive their documents

The document of an account, read again, gives the account: its id and its nickname to the last
character, whatever they contain, and the moment it was created to the nanosecond.

* `entries` — the members of an account as they stand in its document.
* `ofJson_toJson` — the document is read back.
* `documents_are_faithful` — documents tell accounts apart, and writing what was read is final.
-/

set_option autoImplicit false

namespace Roster
namespace Account

open Json (Entry)

/-! ## Moments -/

/-- A written moment is read back. -/
theorem readInstant_written (i : Instant) (r : List Char) :
    readInstant (Json.writtenText (Timestamp.write i) ++ r) = .ok (i, r) := by
  have htext := Json.readString_written "an RFC 3339 formatted date and time string"
    (String.ofList (Timestamp.write i)) r
  rw [String.toList_ofList] at htext
  rw [readInstant, htext]
  simp only [String.toList_ofList, Timestamp.read_write]

/-- A moment is no null, so it is read where it may be missing. -/
theorem readOptional_written (i : Instant) (r : List Char) :
    Json.readOptional readInstant (Json.writtenText (Timestamp.write i) ++ r) =
      .ok (some i, r) := by
  have hread := readInstant_written i r
  rw [Json.writtenText_append] at hread ⊢
  rw [Json.readOptional, Json.dropBlanks_cons (by decide)]
  split
  · rename_i heq
    exact absurd (List.cons.inj heq).1 (by decide)
  · simp only [hread]

/-! ## Members -/

/-- The id, as it stands in a document. -/
def idEntry (id : String) : Entry Account :=
  ⟨"id", Json.writtenText id.toList, fun a => { a with id := id }⟩

/-- The nickname, as it stands in a document. -/
def nicknameEntry (nickname : String) : Entry Account :=
  ⟨"nickname", Json.writtenText nickname.toList, fun a => { a with nickname := nickname }⟩

/-- The moment of creation, as it stands in a document. -/
def createdAtEntry (i : Instant) : Entry Account :=
  ⟨"created_at", Json.writtenText (Timestamp.write i), fun a => { a with createdAt := some i }⟩

theorem reads_idEntry (id : String) : layout.Reads (idEntry id) :=
  ⟨_, rfl, fun mark r _ =>
    Json.Member.read_ofReader _ (Json.readString_written "a string" id (mark :: r))⟩

theorem reads_nicknameEntry (nickname : String) : layout.Reads (nicknameEntry nickname) :=
  ⟨_, rfl, fun mark r _ =>
    Json.Member.read_ofReader _ (Json.readString_written "a string" nickname (mark :: r))⟩

theorem reads_createdAtEntry (i : Instant) : layout.Reads (createdAtEntry i) :=
  ⟨_, rfl, fun mark r _ =>
    Json.Member.read_ofReader (Json.length_lt_of_readOptional length_lt_of_readInstant)
      (readOptional_written i (mark :: r))⟩

/-- The members of an account as they stand in its document. -/
def entries (a : Account) : List (Entry Account) :=
  [idEntry a.id, nicknameEntry a.nickname] ++ (a.createdAt.map createdAtEntry).toList

theorem writtenMembers_eq (a : Account) : a.writtenMembers = a.entries.map Entry.written := by
  cases h : a.createdAt with
  | none => simp [writtenMembers, entries, h, idEntry, nicknameEntry, Entry.written]
  | some i =>
    simp [writtenMembers, entries, h, idEntry, nicknameEntry, createdAtEntry, Entry.written]

theorem reads_of_mem_entries {a : Account} {e : Entry Account} (h : e ∈ a.entries) :
    layout.Reads e := by
  simp only [entries, List.mem_append, List.mem_cons, List.not_mem_nil, or_false,
    Option.mem_toList, Option.map_eq_some_iff] at h
  rcases h with (rfl | rfl) | ⟨i, -, rfl⟩
  · exact reads_idEntry a.id
  · exact reads_nicknameEntry a.nickname
  · exact reads_createdAtEntry i

/-- No member stands in a document twice. -/
theorem nodup_keys_entries (a : Account) : (a.entries.map Entry.key).Nodup := by
  cases h : a.createdAt <;>
    simp [entries, h, idEntry, nicknameEntry, createdAtEntry]

/-- The members of an account make it of an empty one. -/
theorem foldl_entries (a : Account) :
    a.entries.foldl (fun b e => e.change b) empty = a := by
  obtain ⟨id, nickname, createdAt⟩ := a
  cases createdAt <;> rfl

/-! ## Documents -/

/-- **The document of an account is read back**, whatever its id and its nickname contain and
whenever it was created. -/
theorem ofJson_toJson (a : Account) : ofJson a.toJson = .ok a := by
  have hdecode := Json.Layout.decode_written (fun _ he => reads_of_mem_entries he)
    (nodup_keys_entries a)
  rw [ofJson, toJson, writtenMembers_eq, hdecode]
  exact congrArg Except.ok (foldl_entries a)

/-- What a document becomes when the account in it is read and written again; nothing, if there is
none in it. -/
def rewritten? (document : String) : Option String := (ofJson document).toOption.map toJson

/-- A document that is written again becomes that of the account in it. -/
theorem rewritten?_eq_some_iff {document written : String} :
    rewritten? document = some written ↔ ∃ a, ofJson document = .ok a ∧ a.toJson = written := by
  rw [rewritten?, Option.map_eq_some_iff]
  cases ofJson document <;> simp [Except.toOption]

/-- **Documents are faithful.**

* The document of an account is read back as that account.
* Accounts are equal exactly if their documents are.
* Reading and writing a document, whichever way it is written, keeps the account in it, so nothing
  changes its id, its nickname or its moment; and the document that comes out of it is final. -/
theorem documents_are_faithful :
    (∀ a : Account, ofJson a.toJson = .ok a) ∧
      (∀ a b : Account, a = b ↔ a.toJson = b.toJson) ∧
      ∀ document written, rewritten? document = some written →
        ofJson written = ofJson document ∧ rewritten? written = some written := by
  refine ⟨ofJson_toJson, fun a b => ⟨congrArg toJson, fun h => ?_⟩, ?_⟩
  · have hboth : (Except.ok a : Except Json.Error Account) = .ok b := by
      rw [← ofJson_toJson a, h, ofJson_toJson b]
    exact Except.ok.inj hboth
  · intro document written h
    obtain ⟨a, hread, rfl⟩ := rewritten?_eq_some_iff.mp h
    refine ⟨?_, rewritten?_eq_some_iff.mpr ⟨a, ofJson_toJson a, rfl⟩⟩
    rw [ofJson_toJson, hread]

/-- A document with its members in another order and one that is unknown, an escape that was not
needed, and a leap second in another offset. -/
theorem faithful_to_lenient_document :
    let document := "\x7b\"created_at\":\"2016-12-31t18:59:60.5-05:00\", \"more\":[1]," ++
      "\"nickname\":\"\\u0041\\\"\"\x7d"
    let written := "\x7b\"id\":\"\",\"nickname\":\"A\\\"\"," ++
      "\"created_at\":\"2016-12-31T23:59:60.500Z\"\x7d"
    rewritten? document = some written ∧ ofJson written = ofJson document ∧
      rewritten? written = some written := by
  intro document written
  have h : rewritten? document = some written := by decide +kernel
  exact ⟨h, documents_are_faithful.2.2 document written h⟩

end Account
end Roster
