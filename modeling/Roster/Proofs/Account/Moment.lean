import Roster.Proofs.Account.Forms
import Roster.Proofs.Calendar.Reading
import Roster.Proofs.Json.Refusal

/-!
# The moment of an account

A document of an account may spell the moment it was created in many ways, as a local time with an
offset.  What the account holds is the moment in universal time, and a spelling that names no moment
makes the document none of an account.

* `WritesDated` — the documents of an account with a given text for the moment.
* `WritesDated.ofJson_eq` and `WritesDated.ofJson_misspelled` — what becomes of them, by what the
  text is read as.
* `moment_of_documents` — the same by what the text spells.
-/

set_option autoImplicit false

namespace Roster
namespace Account

open Json (Entry ListOf ObjectOf Spells Value)
open LocalTime (blanks_nil indented_self)

/-- The documents of an account in which the moment it was created is a given text: objects with
its other members and unknown ones in any order, and lists.  The moment that the account has itself
does not matter. -/
inductive WritesDated (a : Account) (text : String) (document : List Char) : Prop
  | object {before after : List (String × List Char)} {v : List Char} :
      ObjectOf (before ++ ("created_at", v) :: after) document → Spells text v →
      (∀ m ∈ before ++ after, m.1 ≠ "created_at" ∧ a.Tells m.1 m.2) →
      (((before ++ after).map Prod.fst).filter (· ∈ fields)).Nodup →
      (∀ key ∈ fields, key ∉ "created_at" :: (before ++ after).map Prod.fst → a.Omits key) →
      WritesDated a text document
  | list {id nickname v : List Char} : ListOf [id, nickname, v] document → Spells a.id id →
      Spells a.nickname nickname → Spells text v → WritesDated a text document

/-- The account with a given moment. -/
def dated (a : Account) (i : Instant) : Account := { a with createdAt := some i }

theorem dated_inj {a : Account} {i j : Instant} : a.dated i = a.dated j ↔ i = j :=
  ⟨fun h => Option.some.inj (congrArg Account.createdAt h), fun h => congrArg a.dated h⟩

variable {a : Account} {text document : String}

/-! ## Texts that are read -/

/-- The moment of an account matters for the member of the moment only. -/
theorem Tells.dated {key : String} {v : List Char} (h : a.Tells key v) (hkey : key ≠ "created_at")
    (i : Instant) : (a.dated i).Tells key v := by
  cases h with
  | id hv => exact .id hv
  | nickname hv => exact .nickname hv
  | never _ => exact absurd rfl hkey
  | created _ _ _ => exact absurd rfl hkey
  | unknown hunknown hv => exact .unknown hunknown hv

theorem Omits.dated {key : String} (h : a.Omits key) (hkey : key ≠ "created_at") (i : Instant) :
    (a.dated i).Omits key :=
  ⟨h.1, h.2.1, fun hcreated => absurd hcreated hkey⟩

/-- **A document with a text that is read is one of the account with that moment.** -/
theorem WritesDated.writes {s : List Char} (h : a.WritesDated text s) {i : Instant}
    (hread : Timestamp.read text.toList = .ok i) : (a.dated i).Writes s := by
  cases h with
  | @object before after v hdocument hv htells hkeys homits =>
    have hperm : (before ++ ("created_at", v) :: after).Perm
        (("created_at", v) :: (before ++ after)) := List.perm_middle
    have hpermKeys : ((before ++ ("created_at", v) :: after).map Prod.fst).Perm
        ("created_at" :: (before ++ after).map Prod.fst) := hperm.map Prod.fst
    refine .object hdocument ?_ ?_ ?_
    · intro m hm
      rcases List.mem_cons.mp (hperm.mem_iff.mp hm) with rfl | hm
      · exact .created rfl hread hv
      · exact (htells m hm).2.dated (htells m hm).1 i
    · have hnew : "created_at" ∉ ((before ++ after).map Prod.fst).filter (· ∈ fields) := by
        intro hmem
        obtain ⟨m, hm, hkey⟩ := List.mem_map.mp (List.mem_filter.mp hmem).1
        exact (htells m hm).1 hkey
      have hfilter : ("created_at" :: (before ++ after).map Prod.fst).filter (· ∈ fields) =
          "created_at" :: ((before ++ after).map Prod.fst).filter (· ∈ fields) :=
        List.filter_cons_of_pos (by decide)
      rw [(hpermKeys.filter _).nodup_iff, hfilter]
      exact List.nodup_cons.mpr ⟨hnew, hkeys⟩
    · intro key hkey habsent
      rw [hpermKeys.mem_iff] at habsent
      exact (homits key hkey habsent).dated (List.ne_of_not_mem_cons habsent) i
  | @list id nickname v hdocument hid hnickname hv =>
    refine .list hdocument (Nat.le_refl 3) ?_ ?_
    · show ∀ p ∈ [("id", id), ("nickname", nickname), ("created_at", v)], (a.dated i).Tells p.1 p.2
      simp only [List.forall_mem_cons]
      exact ⟨.id hid, .nickname hnickname, .created rfl hread hv, List.forall_mem_nil _⟩
    · exact List.forall_mem_nil _

theorem WritesDated.ofJson_eq (h : a.WritesDated text document.toList) {i : Instant}
    (hread : Timestamp.read text.toList = .ok i) : ofJson document = .ok (a.dated i) :=
  (h.writes hread).ofJson_eq

/-! ## Texts that are refused -/

/-- The member of the moment does not read a text that is refused. -/
theorem faults_misspelled {e : Timestamp.Refusal} {v : List Char}
    (ht : Timestamp.read text.toList = .error e) (h : Spells text v) :
    layout.Faults "created_at" v (.misspelled e.message) := by
  refine Json.Member.Faults.faults ?_ rfl
  exact Json.Member.faults_ofReader (Json.length_lt_of_readOptional length_lt_of_readInstant)
    fun _ r hb _ => ⟨_, by rw [readOptional_spelled hb h, ht], rfl⟩

/-- **A document with a text that is refused is none of an account**, and the error says why the
text was refused. -/
theorem WritesDated.ofJson_misspelled (h : a.WritesDated text document.toList)
    {e : Timestamp.Refusal} (ht : Timestamp.read text.toList = .error e) :
    ∃ error, ofJson document = .error error ∧ error.cause = .misspelled e.message := by
  cases h with
  | @object before after v hdocument hv htells hkeys homits =>
    have haccepts : ∀ m ∈ before.map a.told, layout.Accepts m.key m.value m.change :=
      List.forall_mem_map.mpr fun m hm => (htells m (List.mem_append_left _ hm)).2.accepts
    have hnodup : (((before.map a.told).map Entry.key).filter layout.knows).Nodup := by
      rw [knows_eq, keys_told]
      rw [List.map_append, List.filter_append] at hkeys
      exact (List.nodup_append.mp hkeys).1
    have hnew : "created_at" ∉ (before.map a.told).map Entry.key := by
      rw [keys_told]
      intro hmem
      obtain ⟨m, hm, hkey⟩ := List.mem_map.mp hmem
      exact (htells m (List.mem_append_left _ hm)).1 hkey
    rw [← pairs_told a before] at hdocument
    exact Json.Layout.decode_faulty haccepts hnodup hnew (faults_misspelled ht hv) hdocument
  | @list id nickname v hdocument hid hnickname hv =>
    have htells : ∀ p ∈ fields.zip [id, nickname], a.Tells p.1 p.2 := by
      show ∀ p ∈ [("id", id), ("nickname", nickname)], a.Tells p.1 p.2
      simp only [List.forall_mem_cons]
      exact ⟨.id hid, .nickname hnickname, List.forall_mem_nil _⟩
    have htakes : ∀ p ∈ layout.members.zip [id, nickname], p.1.Takes p.2 (a.copy p.1.key) :=
      fun p hp => (htells _ (mem_zip_fields hp)).accepts.takes
        (member?_of_mem (List.of_mem_zip hp).1)
    have hvalues : ∀ v ∈ [id, nickname], Value v := by
      simp only [List.forall_mem_cons]
      exact ⟨.text hid.quoted, .text hnickname.quoted, List.forall_mem_nil _⟩
    have hmembers : layout.members = layout.members.take 2 ++ layout.members[2] :: [] := rfl
    have hlength : [id, nickname].length = (layout.members.take 2).length := rfl
    exact Json.Layout.decode_list_faulty hmembers hlength a.copy htakes hvalues (.text hv.quoted)
      ((faults_misspelled ht hv).member rfl) hdocument

/-! ## Written moments -/

/-- The document of an account with a moment, as it is written, has the moment in its written
form. -/
theorem writesDated_toJson (a : Account) (i : Instant) :
    a.WritesDated (String.ofList (Timestamp.write i)) (a.dated i).toJson.toList := by
  have hobject : ObjectOf ([("id", Json.writtenText a.id.toList),
      ("nickname", Json.writtenText a.nickname.toList)] ++
        ("created_at", Json.writtenText (Timestamp.write i)) :: [])
      (Json.writtenObject ((a.dated i).entries.map Entry.written)) :=
    Json.objectOf_written (a.dated i).entries
  have hspells := Json.spells_written (String.ofList (Timestamp.write i))
  rw [String.toList_ofList] at hspells
  rw [toJson, String.toList_ofList, writtenMembers_eq]
  refine .object hobject hspells ?_ ?_ ?_
  · show ∀ m ∈ [("id", Json.writtenText a.id.toList),
      ("nickname", Json.writtenText a.nickname.toList)], m.1 ≠ "created_at" ∧ a.Tells m.1 m.2
    simp only [List.forall_mem_cons]
    exact ⟨⟨by decide, .id (Json.spells_written a.id)⟩,
      ⟨by decide, .nickname (Json.spells_written a.nickname)⟩, List.forall_mem_nil _⟩
  · show (["id", "nickname"].filter (· ∈ fields)).Nodup
    decide
  · intro key hkey habsent
    have hall : ∀ key ∈ fields, key ∈ ["created_at", "id", "nickname"] := by decide
    exact absurd (hall key hkey) habsent

/-! ## The moment -/

theorem read_of_inRange {t : LocalTime} (ht : t.Spells text.toList) (h : t.InRange) :
    ∃ i, Timestamp.read text.toList = .ok i ∧ t.Names i := by
  have hread := Timestamp.read_spelled ht
  cases hi : Timestamp.read text.toList with
  | ok i =>
    rw [hi] at hread
    exact ⟨i, rfl, hread.2⟩
  | error e =>
    rw [hi] at hread
    exact absurd h hread

theorem read_of_not_inRange {t : LocalTime} (ht : t.Spells text.toList) (h : ¬ t.InRange) :
    ∃ e, Timestamp.read text.toList = .error e := by
  have hread := Timestamp.read_spelled ht
  cases hi : Timestamp.read text.toList with
  | ok i =>
    rw [hi] at hread
    exact absurd hread.1 h
  | error e => exact ⟨e, rfl⟩

/-- **A document holds the moment that its text names**, if it names one. -/
theorem WritesDated.ofJson_of_inRange (h : a.WritesDated text document.toList) {t : LocalTime}
    (ht : t.Spells text.toList) (hrange : t.InRange) :
    ∃ i, ofJson document = .ok (a.dated i) ∧ t.Names i := by
  obtain ⟨i, hread, hnames⟩ := read_of_inRange ht hrange
  exact ⟨i, h.ofJson_eq hread, hnames⟩

/-- **A document whose text names no moment is none of an account.** -/
theorem WritesDated.ofJson_of_not_inRange (h : a.WritesDated text document.toList) {t : LocalTime}
    (ht : t.Spells text.toList) (hrange : ¬ t.InRange) :
    ∃ e, ofJson document = .error e ∧ e.category = .data := by
  obtain ⟨e, hread⟩ := read_of_not_inRange ht hrange
  obtain ⟨error, herror, hcause⟩ := h.ofJson_misspelled hread
  exact ⟨error, herror, by rw [Json.Error.category, hcause]; rfl⟩

/-- **The moment of an account is the one that its document names.**  Take any local time, in any
spelling, in any document of an account that has it for the moment.

* The document is accepted exactly if the local time is in range: the day and the time of day exist,
  and so does the offset, and the date in universal time is still in the calendar.  Otherwise the
  error is one of the data.
* An accepted document holds the account with the moment: the minute that is as far from the local
  one as the offset says, the second, which may be the sixtieth, and the whole nanoseconds.
* Written again, the account has its moment in universal time.
* Two accepted documents hold the same account exactly if they name the same moment. -/
theorem moment_of_documents (a : Account) {t : LocalTime} {text document : String}
    (ht : t.Spells text.toList) (h : a.WritesDated text document.toList) :
    ((∃ b, ofJson document = .ok b) ↔ t.InRange) ∧
      (¬ t.InRange → ∃ e, ofJson document = .error e ∧ e.category = .data) ∧
      (∀ b, ofJson document = .ok b → ∃ i, b = a.dated i ∧ t.Names i ∧
        a.WritesDated (String.ofList (Timestamp.write i)) b.toJson.toList ∧
        ∃ u : LocalTime, u.Spells (Timestamp.write i) ∧ u.ahead = 0 ∧ u.SameMoment t) ∧
      ∀ (u : LocalTime) (text' document' : String), u.Spells text'.toList →
        a.WritesDated text' document'.toList → t.InRange → u.InRange →
        (ofJson document = ofJson document' ↔ t.SameMoment u) := by
  by_cases hrange : t.InRange
  · obtain ⟨i, hi, hnames⟩ := h.ofJson_of_inRange ht hrange
    refine ⟨⟨fun _ => hrange, fun _ => ⟨_, hi⟩⟩, fun hnone => absurd hrange hnone, ?_, ?_⟩
    · intro b hb
      obtain rfl : a.dated i = b := Except.ok.inj (hi.symm.trans hb)
      obtain ⟨u, hu, hunames, hzero⟩ := LocalTime.spells_write i
      exact ⟨i, rfl, hnames, writesDated_toJson a i, u, hu, hzero, (hunames.eq_iff hnames).mp rfl⟩
    · intro u text' document' hu h' _ hrange'
      obtain ⟨j, hj, hnames'⟩ := h'.ofJson_of_inRange hu hrange'
      rw [hi, hj, ← hnames.eq_iff hnames', Except.ok.injEq, dated_inj]
  · obtain ⟨e, he, hdata⟩ := h.ofJson_of_not_inRange ht hrange
    have hnone {b : Account} (hb : ofJson document = .ok b) : False := by
      rw [he] at hb
      cases hb
    exact ⟨⟨fun ⟨b, hb⟩ => (hnone hb).elim, fun hrange' => absurd hrange' hrange⟩,
      fun _ => ⟨e, he, hdata⟩, fun b hb => (hnone hb).elim,
      fun _ _ _ _ _ hrange' => absurd hrange' hrange⟩

/-- A leap second at the end of a leap day, half an hour behind universal time, in an object; and
the same moment, which lies in the next month of universal time, in a list and with blanks. -/
theorem moment_behind_leap_day :
    let a : Account := ⟨"aa", "Zezima", none⟩
    let text := "2024-02-29T23:59:60.1234567899\u221200:30"
    let text' := " +2024 -3-1t 0:29 :60.123456789 uTc"
    let document := "\x7b\"created_at\":\"2024-02-29T23:59:60.1234567899\u221200:30\"," ++
      "\"nickname\":\"Zezima\",\"id\":\"aa\"\x7d"
    let document' := "[\"aa\",\"Zezima\",\" +2024 -3-1t 0:29 :60.123456789 uTc\"]"
    let t : LocalTime := ⟨2024, 2, 29, 23, 59, 60, 1234567899, 10, true, 0, 30⟩
    let u : LocalTime := ⟨2024, 3, 1, 0, 29, 60, 123456789, 9, false, 0, 0⟩
    t.Spells text.toList ∧ u.Spells text'.toList ∧ a.WritesDated text document.toList ∧
      a.WritesDated text' document'.toList ∧ (∃ b, ofJson document = .ok b) ∧
      ofJson document = ofJson document' := by
  intro a text text' document document' t u
  have ht : t.Spells text.toList := by
    have htext : text.toList = "2024".toList ++ (['-'] ++ ("02".toList ++ (['-'] ++
        ("29".toList ++ 'T' :: ("23".toList ++ ([':'] ++ ("59".toList ++ ([':'] ++ ("60".toList ++
          ('.' :: "1234567899".toList ++ ('\u2212' :: '0' :: '0' :: ([':'] ++ ['3', '0']) ++
            []))))))))))) := by decide +kernel
    rw [htext]
    exact .parts (indented_self (.plain (n := 2024) (by decide) (by decide))) (indented_self rfl)
      (indented_self (by decide)) (indented_self rfl) (indented_self (by decide)) (.inl rfl)
      (indented_self (by decide)) (indented_self rfl) (indented_self (by decide))
      (indented_self rfl) (indented_self (by decide))
      (@LocalTime.SpellsFraction.digits 1234567899 "1234567899".toList (by decide))
      (indented_self (.behind (.inr rfl) (.pairs (by decide)
        (List.forall_mem_singleton.mpr (.inl rfl)) (by decide)))) blanks_nil
  have hu : u.Spells text'.toList := by
    have htext : text'.toList = (" ".toList ++ "+2024".toList) ++ ((" ".toList ++ ['-']) ++
        ("3".toList ++ (['-'] ++ ("1".toList ++ 't' :: ((" ".toList ++ "0".toList) ++ ([':'] ++
          ("29".toList ++ ((" ".toList ++ [':']) ++ ("60".toList ++ ('.' :: "123456789".toList ++
            ((" ".toList ++ ['u', 'T', 'c']) ++ []))))))))))) := by decide +kernel
    rw [htext]
    exact .parts ⟨_, _, by decide, .plus (n := 2024) (by decide), rfl⟩
      ⟨_, _, by decide, rfl, rfl⟩ (indented_self (by decide)) (indented_self rfl)
      (indented_self (by decide)) (.inr (.inl rfl)) ⟨_, _, by decide, by decide, rfl⟩
      (indented_self rfl) (indented_self (by decide)) ⟨_, _, by decide, rfl, rfl⟩
      (indented_self (by decide))
      (@LocalTime.SpellsFraction.digits 123456789 "123456789".toList (by decide))
      ⟨_, _, by decide, .words (.inr rfl) (.inl rfl) (.inr rfl), rfl⟩ blanks_nil
  have hdocument : a.WritesDated text document.toList := by
    have hobject : ObjectOf ([] ++ ("created_at", Json.writtenText text.toList) ::
        [("nickname", "\"Zezima\"".toList), ("id", "\"aa\"".toList)]) document.toList :=
      ⟨[], _, [], by decide,
        .member [] [] [] [] (by decide) (Json.spells_written "created_at")
          (.member [] [] [] [] (by decide) (Json.spells_written "nickname")
            (.member [] [] [] [] (by decide) (Json.spells_written "id")
              (.nil (List.forall_mem_nil _)))),
        by decide, by decide +kernel⟩
    refine .object hobject (Json.spells_written text) ?_ (by decide) ?_
    · simp only [List.nil_append, List.forall_mem_cons]
      exact ⟨⟨by decide, .nickname (Json.spells_written "Zezima")⟩,
        ⟨by decide, .id (Json.spells_written "aa")⟩, List.forall_mem_nil _⟩
    · intro key hkey habsent
      have hall : ∀ key ∈ fields, key ∈ ["created_at", "nickname", "id"] := by decide
      exact absurd (hall key hkey) habsent
  have hdocument' : a.WritesDated text' document'.toList := by
    have hlist : ListOf ["\"aa\"".toList, "\"Zezima\"".toList, Json.writtenText text'.toList]
        document'.toList :=
      ⟨[], _, [], by decide,
        .cons (List.forall_mem_nil _) rfl (List.forall_mem_nil _)
          (.cons (List.forall_mem_nil _) rfl (List.forall_mem_nil _)
            (.cons (List.forall_mem_nil _) rfl (List.forall_mem_nil _)
              (.nil (List.forall_mem_nil _)))),
        by decide, by decide +kernel⟩
    exact .list hlist (Json.spells_written "aa") (Json.spells_written "Zezima")
      (Json.spells_written text')
  have hrange : t.InRange := by decide +kernel
  have hrange' : u.InRange := by decide +kernel
  obtain ⟨haccepted, -, -, hsame⟩ := moment_of_documents a ht hdocument
  exact ⟨ht, hu, hdocument, hdocument', haccepted.mpr hrange,
    (hsame u text' document' hu hdocument' hrange hrange').mpr (by decide +kernel)⟩

end Account
end Roster
