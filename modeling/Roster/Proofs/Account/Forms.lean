import Mathlib.Data.List.Induction
import Mathlib.Data.List.Nodup
import Roster.Proofs.Account.RoundTrip
import Roster.Proofs.Json.Forms

/-!
# Every way of writing an account

An account is read from every document that is written for it: an object with its members in any
order or a list of them in their own, with members left out where they hold nothing, with any
blanks, any spelling of texts and keys, and any unknown members.

* `Tells` — what a member of a document may hold, by its key, if the document is one of an account.
* `Writes` — the documents of an account.
* `writes_toJson` — the document of an account as it is written is one of them.
* `documents_of_account` — all of them are read as the account, and an object with a known key
  twice as none.
-/

set_option autoImplicit false

namespace Roster
namespace Account

open Json (Entry Inside Labelled ListOf ObjectOf Spells Value)

/-! ## Documents of an account -/

/-- The keys of the members of an account. -/
def fields : List String := ["id", "nickname", "created_at"]

/-- The values that may stand behind a key in a document of an account: a spelling of what the
account has there, and any value behind a key that is none of an account's. -/
inductive Tells (a : Account) : String → List Char → Prop
  | id {v : List Char} : Spells a.id v → Tells a "id" v
  | nickname {v : List Char} : Spells a.nickname v → Tells a "nickname" v
  | never : a.createdAt = none → Tells a "created_at" ['n', 'u', 'l', 'l']
  | created {i : Instant} {t : String} {v : List Char} : a.createdAt = some i →
      Timestamp.read t.toList = .ok i → Spells t v → Tells a "created_at" v
  | unknown {key : String} {v : List Char} : key ∉ fields → Value v → Tells a key v

/-- An account holds nothing in the member with a key, so that its documents may leave the member
out. -/
def Omits (a : Account) (key : String) : Prop :=
  (key = "id" → a.id = "") ∧ (key = "nickname" → a.nickname = "") ∧
    (key = "created_at" → a.createdAt = none)

/-- The documents of an account: objects in which no known key occurs twice, and lists of its first
members. -/
inductive Writes (a : Account) (document : List Char) : Prop
  | object {ms : List (String × List Char)} : ObjectOf ms document →
      (∀ m ∈ ms, a.Tells m.1 m.2) →
      ((ms.map Prod.fst).filter (· ∈ fields)).Nodup →
      (∀ key ∈ fields, key ∉ ms.map Prod.fst → a.Omits key) → Writes a document
  | list {values : List (List Char)} : ListOf values document →
      values.length ≤ fields.length →
      (∀ p ∈ fields.zip values, a.Tells p.1 p.2) →
      (∀ key ∈ fields.drop values.length, a.Omits key) → Writes a document

/-! ## Values -/

/-- The change that a document of an account makes at a key. -/
def copy (a : Account) (key : String) (b : Account) : Account :=
  if key = "id" then { b with id := a.id }
  else if key = "nickname" then { b with nickname := a.nickname }
  else if key = "created_at" then { b with createdAt := a.createdAt }
  else b

/-- The member of the moment reads a text as a timestamp, and refuses it where that is refused. -/
theorem readInstant_spelled {t : String} {b v : List Char} (hb : Json.Blanks b) (h : Spells t v)
    (r : List Char) :
    readInstant (b ++ (v ++ r)) =
      match Timestamp.read t.toList with
      | .ok i => .ok (i, r)
      | .error e => .error (.here (.misspelled e.message) r) := by
  cases ht : Timestamp.read t.toList <;> simp only [readInstant, Json.readString_spelled hb h, ht]

/-- Where a moment may be missing, a text is no null, -/
theorem readOptional_spelled {t : String} {b v : List Char} (hb : Json.Blanks b) (h : Spells t v)
    (r : List Char) :
    Json.readOptional readInstant (b ++ (v ++ r)) =
      match Timestamp.read t.toList with
      | .ok i => .ok (some i, r)
      | .error e => .error (.here (.misspelled e.message) r) := by
  have hread := readInstant_spelled (List.forall_mem_nil _) h r
  obtain ⟨body, rfl⟩ := h.exists_cons
  rw [Json.readOptional, List.cons_append, Json.dropBlanks_append_cons hb (by decide)]
  split
  · rename_i heq
    exact absurd (List.cons.inj heq).1 (by decide)
  · rw [List.nil_append, List.cons_append] at hread
    rw [hread]
    cases Timestamp.read t.toList <;> rfl

/-- and a null is no moment. -/
theorem readOptional_null {α : Type} {read : Json.Reader α} {b : List Char} (hb : Json.Blanks b)
    (r : List Char) :
    Json.readOptional read (b ++ (['n', 'u', 'l', 'l'] ++ r)) = .ok (none, r) := by
  rw [Json.readOptional, List.cons_append, Json.dropBlanks_append_cons hb (by decide)]
  rfl

/-- The keys that a record knows if it is an account. -/
theorem knows_eq : layout.knows = fun key => decide (key ∈ fields) := by
  funext key
  rw [Bool.eq_iff_iff, decide_eq_true_iff]
  exact Json.Layout.knows_iff

theorem copy_of_unknown (a : Account) {key : String} (h : key ∉ fields) :
    a.copy key = fun b => b := by
  simp only [fields, List.mem_cons, List.not_mem_nil, or_false, not_or] at h
  funext b
  rw [copy, if_neg h.1, if_neg h.2.1, if_neg h.2.2]

/-- **What a document of an account tells is accepted**, and copies the account there. -/
theorem Tells.accepts {a : Account} {key : String} {v : List Char} (h : a.Tells key v) :
    layout.Accepts key v (a.copy key) := by
  cases h with
  | id hv =>
    refine Json.Member.Takes.accepts ?_ rfl
    exact Json.Member.takes_ofReader Json.length_lt_of_readString fun _ r hb _ =>
      Json.readString_spelled hb hv _ r
  | nickname hv =>
    refine Json.Member.Takes.accepts ?_ rfl
    exact Json.Member.takes_ofReader Json.length_lt_of_readString fun _ r hb _ =>
      Json.readString_spelled hb hv _ r
  | never hnever =>
    have hcopy : a.copy "created_at" = fun b => { b with createdAt := none } := by
      funext b
      rw [← hnever]
      rfl
    rw [hcopy]
    refine Json.Member.Takes.accepts ?_ rfl
    exact Json.Member.takes_ofReader (Json.length_lt_of_readOptional length_lt_of_readInstant)
      fun _ r hb _ => readOptional_null hb r
  | @created i t v hcreated ht hv =>
    have hcopy : a.copy "created_at" = fun b => { b with createdAt := some i } := by
      funext b
      rw [← hcreated]
      rfl
    rw [hcopy]
    refine Json.Member.Takes.accepts ?_ rfl
    exact Json.Member.takes_ofReader (Json.length_lt_of_readOptional length_lt_of_readInstant)
      fun _ r hb _ => by rw [readOptional_spelled hb hv, ht]
  | unknown hkey hv =>
    rw [copy_of_unknown a hkey]
    refine Json.Layout.accepts_unknown ?_ hv
    rw [knows_eq]
    exact decide_eq_false hkey

/-- What a document of an account tells is a value, whatever it is. -/
theorem Tells.value {a : Account} {key : String} {v : List Char} (h : a.Tells key v) :
    Value v := by
  cases h with
  | id hv => exact .text hv.quoted
  | nickname hv => exact .text hv.quoted
  | never _ => exact .word (by decide)
  | created _ _ hv => exact .text hv.quoted
  | unknown _ hv => exact hv

/-! ## Whole accounts -/

/-- What the changes at some keys make of an account: it is copied at these keys, and stays as it
is at the others. -/
theorem foldl_copy (a b : Account) (keys : List String) :
    keys.foldl (fun b key => a.copy key b) b =
      ⟨if "id" ∈ keys then a.id else b.id,
        if "nickname" ∈ keys then a.nickname else b.nickname,
        if "created_at" ∈ keys then a.createdAt else b.createdAt⟩ := by
  induction keys generalizing b with
  | nil => simp
  | cons key keys ih =>
    rw [List.foldl_cons, ih]
    by_cases hid : key = "id"
    · subst hid; simp [copy]
    by_cases hnickname : key = "nickname"
    · subst hnickname; simp [copy]
    by_cases hcreated : key = "created_at"
    · subst hcreated; simp [copy]
    have hunknown : key ∉ fields := by simp [fields, hid, hnickname, hcreated]
    rw [copy_of_unknown a hunknown]
    simp [List.mem_cons, Ne.symm hid, Ne.symm hnickname, Ne.symm hcreated]

/-- An account that is copied at some keys, and holds nothing at the others, is all there. -/
theorem foldl_copy_empty {a : Account} {keys : List String}
    (h : ∀ key ∈ fields, key ∉ keys → a.Omits key) :
    keys.foldl (fun b key => a.copy key b) empty = a := by
  have hid (hkey : "id" ∉ keys) : empty.id = a.id :=
    ((h "id" (by decide) hkey).1 rfl).symm
  have hnickname (hkey : "nickname" ∉ keys) : empty.nickname = a.nickname :=
    ((h "nickname" (by decide) hkey).2.1 rfl).symm
  have hcreated (hkey : "created_at" ∉ keys) : empty.createdAt = a.createdAt :=
    ((h "created_at" (by decide) hkey).2.2 rfl).symm
  rw [foldl_copy, ite_eq_left_iff.mpr hid, ite_eq_left_iff.mpr hnickname,
    ite_eq_left_iff.mpr hcreated]

/-- A member of a document of an account, with the change that it makes. -/
def told (a : Account) (m : String × List Char) : Entry Account := ⟨m.1, m.2, a.copy m.1⟩

theorem pairs_told (a : Account) (ms : List (String × List Char)) :
    (ms.map a.told).map Entry.pair = ms := by
  rw [List.map_map]
  exact List.map_id ms

theorem keys_told (a : Account) (ms : List (String × List Char)) :
    (ms.map a.told).map Entry.key = ms.map Prod.fst := by
  rw [List.map_map]
  rfl

/-- The members of a document of an account copy it where they have keys. -/
theorem foldl_told (a b : Account) (ms : List (String × List Char)) :
    (ms.map a.told).foldl (fun b e => e.change b) b =
      (ms.map Prod.fst).foldl (fun b key => a.copy key b) b := by
  rw [List.foldl_map, List.foldl_map]
  rfl

theorem member?_of_mem {m : Json.Member Account} (h : m ∈ layout.members) :
    layout.member? m.key = some m := by
  simp only [layout, List.mem_cons, List.not_mem_nil, or_false] at h
  rcases h with rfl | rfl | rfl <;> rfl

/-- The members of an account stand beside the items of a list as their keys do. -/
theorem mem_zip_fields {m : Json.Member Account} {v : List Char} {values : List (List Char)}
    (h : (m, v) ∈ layout.members.zip values) : (m.key, v) ∈ fields.zip values := by
  have hfields : fields = layout.members.map Json.Member.key := rfl
  rw [hfields, List.zip_map_left]
  exact List.mem_map_of_mem h

/-- **Every document of an account is read as that account.** -/
theorem Writes.ofJson_eq {a : Account} {document : String} (h : a.Writes document.toList) :
    ofJson document = .ok a := by
  cases h with
  | @object ms hdocument htells hkeys homits =>
    have haccepts : ∀ e ∈ ms.map a.told, layout.Accepts e.key e.value e.change :=
      List.forall_mem_map.mpr fun m hm => (htells m hm).accepts
    rw [← knows_eq, ← keys_told a] at hkeys
    rw [← pairs_told a ms] at hdocument
    have hdecode := (Json.Layout.holds_object haccepts hkeys hdocument).decode
    rw [ofJson, hdecode, foldl_told]
    exact congrArg Except.ok (foldl_copy_empty homits)
  | @list values hdocument hlength htells homits =>
    have htakes : ∀ p ∈ layout.members.zip values, p.1.Takes p.2 (a.copy p.1.key) := by
      intro p hp
      exact (htells _ (mem_zip_fields hp)).accepts.takes
        (member?_of_mem (List.of_mem_zip hp).1)
    have hvalues : ∀ v ∈ values, Value v := by
      intro v hv
      rw [← List.map_snd_zip hlength] at hv
      obtain ⟨p, hp, rfl⟩ := List.mem_map.mp hv
      exact (htells p hp).value
    have hdecode := (Json.Layout.holds_list hlength a.copy htakes hvalues hdocument).decode
    rw [ofJson, hdecode]
    refine congrArg Except.ok (foldl_copy_empty fun key hkey habsent => homits key ?_)
    have hsplit : key ∈ fields.take values.length ++ fields.drop values.length := by
      rwa [List.take_append_drop]
    rw [List.map_take] at habsent
    exact (List.mem_append.mp hsplit).resolve_left habsent

/-! ## Written accounts -/

/-- A moment may stand in a document as it is written, in any spelling. -/
theorem Tells.of_written {a : Account} {i : Instant} {v : List Char}
    (h : a.createdAt = some i) (hv : Spells (String.ofList (Timestamp.write i)) v) :
    a.Tells "created_at" v := by
  have hread : Timestamp.read (String.ofList (Timestamp.write i)).toList = .ok i := by
    rw [String.toList_ofList, Timestamp.read_write]
  exact .created h hread hv

/-- The document of an account as it is written is one of its documents. -/
theorem writes_toJson (a : Account) : a.Writes a.toJson.toList := by
  have hobject := Json.objectOf_written a.entries
  rw [← writtenMembers_eq] at hobject
  have hkeys : (a.entries.map Entry.pair).map Prod.fst = a.entries.map Entry.key := by
    rw [List.map_map]
    rfl
  rw [toJson, String.toList_ofList]
  refine .object hobject ?_ ?_ ?_
  · rw [List.forall_mem_map]
    intro e he
    simp only [entries, List.mem_append, List.mem_cons, List.not_mem_nil, or_false,
      Option.mem_toList, Option.map_eq_some_iff] at he
    rcases he with (rfl | rfl) | ⟨i, hi, rfl⟩
    · exact .id (Json.spells_written a.id)
    · exact .nickname (Json.spells_written a.nickname)
    · have hspells := Json.spells_written (String.ofList (Timestamp.write i))
      rw [String.toList_ofList] at hspells
      exact .of_written hi hspells
  · rw [hkeys]
    exact (nodup_keys_entries a).sublist List.filter_sublist
  · intro key _ habsent
    rw [hkeys, entries, List.map_append, List.mem_append, not_or] at habsent
    refine ⟨?_, ?_, ?_⟩
    · rintro rfl
      exact absurd List.mem_cons_self habsent.1
    · rintro rfl
      exact absurd (List.mem_cons_of_mem _ List.mem_cons_self) habsent.1
    · rintro rfl
      cases hcreated : a.createdAt with
      | none => rfl
      | some i =>
        rw [hcreated] at habsent
        exact absurd List.mem_cons_self habsent.2

/-! ## Repeated keys -/

/-- A list in which something occurs twice that matters has a first place where it does. -/
theorem exists_first_repeat {β : Type} {f : β → String} {p : String → Bool} {xs : List β}
    (h : ¬ ((xs.map f).filter p).Nodup) :
    ∃ before x after, xs = before ++ x :: after ∧ p (f x) = true ∧ f x ∈ before.map f ∧
      ((before.map f).filter p).Nodup := by
  induction xs using List.reverseRecOn with
  | nil => exact absurd List.nodup_nil h
  | append_singleton xs x ih =>
    by_cases hxs : ((xs.map f).filter p).Nodup
    · -- nothing repeats before `x`, so it is `x` that does
      refine ⟨xs, x, [], rfl, ?_⟩
      rw [List.map_append, List.map_singleton, List.filter_append] at h
      by_cases hx : p (f x) = true
      · have hmem : f x ∈ (xs.map f).filter p := by
          by_contra hmem
          rw [List.filter_cons_of_pos hx, List.filter_nil, ← List.concat_eq_append,
            List.nodup_concat] at h
          exact h ⟨hmem, hxs⟩
        exact ⟨hx, (List.mem_filter.mp hmem).1, hxs⟩
      · rw [List.filter_cons_of_neg hx, List.filter_nil, List.append_nil] at h
        exact absurd hxs h
    · obtain ⟨before, y, after, rfl, hy⟩ := ih hxs
      exact ⟨before, y, after ++ [x], by simp, hy⟩

/-- **An object that holds a known key twice is no account**, and the error names the first key
that repeats one before it. -/
theorem ofJson_repeated {ms : List (String × List Char)} {document : String}
    (hdocument : ObjectOf ms document.toList) (htells : ∀ m ∈ ms, ∃ a : Account, a.Tells m.1 m.2)
    (hkeys : ¬ ((ms.map Prod.fst).filter (· ∈ fields)).Nodup) :
    ∃ before key value after, ms = before ++ (key, value) :: after ∧
      key ∈ fields ∧ key ∈ before.map Prod.fst ∧
      ((before.map Prod.fst).filter (· ∈ fields)).Nodup ∧
      ∃ e, ofJson document = .error e ∧ e.cause = .duplicateField key := by
  obtain ⟨before, ⟨key, value⟩, after, rfl, hknown, hkey, hnodup⟩ := exists_first_repeat hkeys
  refine ⟨before, key, value, after, rfl, of_decide_eq_true hknown, hkey, hnodup, ?_⟩
  obtain ⟨es, rfl, haccepts⟩ := Json.Layout.exists_entries fun m hm => by
    obtain ⟨a, ha⟩ := htells m (List.mem_append_left _ hm)
    exact ⟨a.copy m.1, ha.accepts⟩
  rw [List.map_map] at hkey hnodup
  rw [← knows_eq] at hnodup
  exact Json.Layout.decode_repeated haccepts hnodup (knows_eq ▸ hknown) hkey hdocument

/-! ## The documents -/

/-- **The documents of accounts.**

* The document of an account as it is written is one of them, and the moment of an account may stand
  in them as it is written, in any spelling of that text.
* Every document that is written for an account is read as that account: an object with its members
  in any order, or a list of them in their own order; with any blanks between the tokens and any
  spelling of texts and keys; without members that hold nothing, or with a null for a moment that
  is missing; and, in an object, with any values of any depth behind keys that are not known.
* If all values of an object are of the right type and a known key occurs twice, the object is no
  account: the error is one of the data, and names the first key that stands in the object again,
  whatever members lie between. -/
theorem documents_of_account :
    (∀ a : Account, a.Writes a.toJson.toList) ∧
      (∀ (a : Account) (i : Instant) (v : List Char), a.createdAt = some i →
        Spells (String.ofList (Timestamp.write i)) v → a.Tells "created_at" v) ∧
      (∀ (a : Account) (document : String), a.Writes document.toList → ofJson document = .ok a) ∧
      ∀ (ms : List (String × List Char)) (document : String), ObjectOf ms document.toList →
        (∀ m ∈ ms, ∃ a : Account, a.Tells m.1 m.2) →
        ¬ ((ms.map Prod.fst).filter (· ∈ fields)).Nodup →
        ∃ before key value after, ms = before ++ (key, value) :: after ∧
          key ∈ fields ∧ key ∈ before.map Prod.fst ∧
          ((before.map Prod.fst).filter (· ∈ fields)).Nodup ∧
          ∃ e, ofJson document = .error e ∧ e.cause = .duplicateField key ∧ e.category = .data := by
  refine ⟨writes_toJson, fun a i v => .of_written, fun a document h => h.ofJson_eq,
    fun ms document hdocument htells hkeys => ?_⟩
  obtain ⟨before, key, value, after, hms, hknown, hkey, hnodup, e, he, hcause⟩ :=
    ofJson_repeated hdocument htells hkeys
  refine ⟨before, key, value, after, hms, hknown, hkey, hnodup, e, he, hcause, ?_⟩
  rw [Json.Error.category, hcause]
  rfl

/-- An object with its members in another order, an unknown one of some depth, and keys and values
that are spelled by codes, among them those of a leap second; and one that has its id again in
another spelling, behind an unknown member with half of a surrogate pair. -/
theorem documents_of_escaped_account :
    let moment : Instant :=
      ⟨⟨2016, 12, 31, by decide⟩, 1439, 60, 500000000, by decide, by decide, by decide⟩
    let account : Account := ⟨"A😀", "", some moment⟩
    let document := " \x7b\"more\" : [[-1e400]],\n" ++
      "\"\\u0063reated_at\":\t\"\\u0032016-12-31T23:59:60.500Z\" ," ++
      "\"\\u0069d\":\"\\u0041\\uD83d\\ude00\"\x7d"
    let repeated := "\x7b\"id\":\"\",\"more\":\"\\ud800\",\"\\u0069d\":\"\"\x7d"
    account.Writes document.toList ∧ ofJson document = .ok account ∧
      ∃ e, ofJson repeated = .error e ∧ e.cause = .duplicateField "id" ∧ e.category = .data := by
  intro moment account document repeated
  obtain ⟨-, hmoment, hread, hrefused⟩ := documents_of_account
  have hkey : Spells "id" "\"\\u0069d\"".toList :=
    ⟨_, .cons (.code (.digits (by decide))) (.cons (.plain (by decide)) .nil), rfl⟩
  have hpair : '😀'.toNat = 0x10000 + (0xd83d - 0xd800) * 0x400 + (0xde00 - 0xdc00) := by decide
  have hvalue : Spells "A😀" "\"\\u0041\\uD83d\\ude00\"".toList :=
    ⟨_, .cons (.code (.digits (by decide)))
      (.cons (.pair (by decide) (by decide) (by decide) (by decide) hpair
        (.digits (by decide)) (.digits (by decide))) .nil), rfl⟩
  have hnumber : Value "-1e400".toList :=
    .number (@Json.Numeral.parts ['-'] [] "e400".toList 1 (by decide) .none
      (@Json.Exponent.digits 'e' [] "400".toList (.inl rfl) (by decide) (by decide)))
  have hcreated : Spells "created_at" "\"\\u0063reated_at\"".toList :=
    ⟨_, .cons (.code (@Json.Quad.digits 0x63 '0' '0' '6' '3' (by decide)))
      (Json.spellsChars_written "reated_at".toList), by decide +kernel⟩
  have hwritten : String.ofList (Timestamp.write moment) = "2016-12-31T23:59:60.500Z" := by
    decide +kernel
  have hspelled : Spells (String.ofList (Timestamp.write moment))
      "\"\\u0032016-12-31T23:59:60.500Z\"".toList := by
    rw [hwritten]
    exact ⟨_, .cons (.code (@Json.Quad.digits 0x32 '0' '0' '3' '2' (by decide)))
      (Json.spellsChars_written "016-12-31T23:59:60.500Z".toList), by decide +kernel⟩
  have hobject : ObjectOf [("more", "[[-1e400]]".toList),
      ("created_at", "\"\\u0032016-12-31T23:59:60.500Z\"".toList),
      ("id", "\"\\u0041\\uD83d\\ude00\"".toList)] document.toList :=
    ⟨[' '], _, [], by decide,
      .member [] [] [' '] [' '] (by decide) (Json.spells_written "more")
        (.member [] ['\n'] [] ['\t'] (by decide) hcreated
          (.member [' '] [] [] [] (by decide) hkey (.nil (List.forall_mem_nil _)))),
      by decide, by decide +kernel⟩
  have hwrites : account.Writes document.toList := by
    refine .object hobject ?_ (by decide) ?_
    · simp only [List.forall_mem_cons]
      exact ⟨.unknown (by decide) hnumber.single.single, hmoment account moment _ rfl hspelled,
        .id hvalue, List.forall_mem_nil _⟩
    · intro key _ habsent
      refine ⟨fun h => absurd ?_ habsent, fun _ => rfl, fun h => absurd ?_ habsent⟩
      all_goals
        rw [h]
        decide
  let ms := [("id", "\"\"".toList), ("more", "\"\\ud800\"".toList), ("id", "\"\"".toList)]
  have hrepeated : ObjectOf ms repeated.toList :=
    ⟨[], _, [], by decide,
      .member [] [] [] [] (by decide) (Json.spells_written "id")
        (.member [] [] [] [] (by decide) (Json.spells_written "more")
          (.member [] [] [] [] (by decide) hkey (.nil (List.forall_mem_nil _)))),
      by decide, by decide +kernel⟩
  have htells : ∀ m ∈ ms, ∃ a : Account, a.Tells m.1 m.2 := by
    have hempty : Spells empty.id "\"\"".toList := Json.spells_written ""
    have hlone : Value "\"\\ud800\"".toList :=
      .text ⟨_, @Json.Pieces.code 0xd800 _ [] (.digits (by decide)) .nil, rfl⟩
    simp only [ms, List.forall_mem_cons]
    exact ⟨⟨empty, .id hempty⟩, ⟨empty, .unknown (by decide) hlone⟩, ⟨empty, .id hempty⟩,
      List.forall_mem_nil _⟩
  obtain ⟨before, key, value, after, hms, hknown, hbefore, -, e, he, hcause, hdata⟩ :=
    hrefused ms repeated hrepeated htells (by decide)
  have hid : key = "id" := by
    have hmem : key ∈ ms.map Prod.fst := by
      rw [hms, List.map_append]
      exact List.mem_append_left _ hbefore
    have hall : ∀ key ∈ ms.map Prod.fst, key ∈ fields → key = "id" := by decide
    exact hall key hmem hknown
  exact ⟨hwrites, hread account document hwrites, e, he, hid ▸ hcause, hdata⟩

end Account
end Roster
