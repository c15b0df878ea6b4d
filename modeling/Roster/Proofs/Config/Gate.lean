import Mathlib.Data.List.Nodup
import Roster.Config
import Roster.Proofs.Json.Forms

/-!
# The gate of the configuration

A configuration that comes out of a document can be used, and nothing stands in it that the
document does not say: a length that is no natural number of 64 bits is refused, and a zero is
told apart from a document that cannot be read.

* `ofJson_eq_ok_iff`, `ofJson_eq_config_iff` and `ofJson_eq_document_iff` — the three outcomes.
* `Gives` — the documents that hold a given value as the length.
* `gate_is_exact` — which documents have which outcome.
-/

set_option autoImplicit false

namespace Roster
namespace RuleConfig

open Json (Blanks Entry Inside Labelled ListOf ObjectOf Spells Value maxSignificand)

/-! ## Outcomes -/

/-- What is said of a length of zero. -/
def zeroReason : String := "id_length must be greater than zero"

/-- The outcome of a document depends on what is decoded, and on nothing else in it. -/
theorem ofJson_eq (document : String) :
    ofJson document =
      match layout.decode document with
      | .error e => .error (.document e)
      | .ok c => if c.idLength = 0 then .error (.config zeroReason) else .ok c := by
  rw [ofJson]
  cases layout.decode document with
  | error e => rfl
  | ok c =>
    dsimp only
    rw [validate]
    by_cases hzero : c.idLength = 0
    · rw [if_pos hzero, if_pos hzero]
      rfl
    · rw [if_neg hzero, if_neg hzero]

theorem ofJson_eq_ok_iff {document : String} {c : RuleConfig} :
    ofJson document = .ok c ↔ layout.decode document = .ok c ∧ c.idLength ≠ 0 := by
  rw [ofJson_eq]
  cases layout.decode document with
  | error e => simp
  | ok d =>
    dsimp only
    split <;> grind

theorem ofJson_eq_config_iff {document reason : String} :
    ofJson document = .error (.config reason) ↔
      layout.decode document = .ok ⟨0⟩ ∧ reason = zeroReason := by
  rw [ofJson_eq]
  cases layout.decode document with
  | error e => simp
  | ok d =>
    obtain ⟨n⟩ := d
    dsimp only
    split <;> grind

theorem ofJson_eq_document_iff {document : String} {e : Json.Error} :
    ofJson document = .error (.document e) ↔ layout.decode document = .error e := by
  rw [ofJson_eq]
  cases layout.decode document with
  | error e' => simp
  | ok d =>
    dsimp only
    split <;> simp

/-- There are no other outcomes than these three. -/
theorem outcome_cases (document : String) :
    (∃ c, ofJson document = .ok c) ∨ (∃ reason, ofJson document = .error (.config reason)) ∨
      ∃ e, ofJson document = .error (.document e) := by
  rw [ofJson_eq]
  cases layout.decode document with
  | error e => exact Or.inr (Or.inr ⟨e, rfl⟩)
  | ok c =>
    dsimp only
    split
    · exact Or.inr (Or.inl ⟨zeroReason, rfl⟩)
    · exact Or.inl ⟨c, rfl⟩

/-! ## Lengths -/

/-- The keys that a record knows if it is a configuration. -/
theorem knows_eq : layout.knows = fun key => decide (key = "id_length") := by
  funext key
  rw [Bool.eq_iff_iff, decide_eq_true_iff, Json.Layout.knows_iff]
  exact List.mem_singleton

/-- The only member of a configuration. -/
def lengthMember : Json.Member RuleConfig :=
  Json.Member.ofReader "id_length" (Json.readNatural "usize")
    (fun length c => c.withIdLength length) Json.length_lt_of_readNatural

theorem members_eq : layout.members = [lengthMember] := rfl

theorem member?_length : layout.member? "id_length" = some lengthMember := rfl

/-- A natural number of 64 bits is taken for the length, and exactly. -/
theorem takes_toDigits {n : Nat} (hn : n ≤ maxSignificand) :
    lengthMember.Takes (Nat.toDigits 10 n) fun c => c.withIdLength n :=
  Json.Member.takes_ofReader Json.length_lt_of_readNatural fun _ _ hb hr =>
    Json.readNatural_toDigits hn hb hr "usize"

/-- Any other value is rejected. -/
theorem rejects_value {v : List Char} (hv : Value v)
    (hother : ∀ n, n ≤ maxSignificand → v ≠ Nat.toDigits 10 n) : lengthMember.Rejects v := by
  refine Json.Member.rejects_ofReader Json.length_lt_of_readNatural fun b r hb hr => ?_
  cases hread : Json.readNatural "usize" (b ++ (v ++ r)) with
  | error e => exact ⟨e, rfl⟩
  | ok result =>
    obtain ⟨n, r'⟩ := result
    exact absurd (Json.eq_toDigits_of_readNatural hv hb hr hread)
      (hother n (Json.le_of_readNatural hread))

/-- A value behind any other key is accepted, and changes nothing. -/
theorem accepts_other {m : String × List Char} (h : m.1 ≠ "id_length" ∧ Value m.2) :
    layout.Accepts m.1 m.2 id := by
  refine Json.Layout.accepts_unknown ?_ h.2
  rw [knows_eq]
  exact decide_eq_false h.1

/-- A value behind any key is accepted or refused, whatever stands around it. -/
theorem accepts_or_refuses {m : String × List Char} (hv : Value m.2) :
    (∃ change, layout.Accepts m.1 m.2 change) ∨ layout.Refuses m.1 m.2 := by
  obtain ⟨key, v⟩ := m
  by_cases hkey : key = "id_length"
  · subst hkey
    by_cases hlength : ∃ n ≤ maxSignificand, v = Nat.toDigits 10 n
    · obtain ⟨n, hn, rfl⟩ := hlength
      exact Or.inl ⟨_, (takes_toDigits hn).accepts member?_length⟩
    · refine Or.inr ((rejects_value hv fun n hn heq => ?_).refuses member?_length)
      exact hlength ⟨n, hn, heq⟩
  · exact Or.inl ⟨id, accepts_other ⟨hkey, hv⟩⟩

/-! ## Documents -/

/-- The documents that hold a value as the length: objects in which it stands between any members
that are unknown, and the list of it alone. -/
inductive Gives (value document : List Char) : Prop
  | object {before after : List (String × List Char)} :
      ObjectOf (before ++ ("id_length", value) :: after) document →
      (∀ m ∈ before ++ after, m.1 ≠ "id_length" ∧ Value m.2) → Gives value document
  | list : ListOf [value] document → Gives value document

/-- A member that is unknown, which changes nothing. -/
def unknown (m : String × List Char) : Entry RuleConfig := ⟨m.1, m.2, id⟩

theorem pairs_unknown (ms : List (String × List Char)) :
    (ms.map unknown).map Entry.pair = ms := by
  rw [List.map_map]
  exact List.map_id ms

theorem foldl_unknown (ms : List (String × List Char)) (c : RuleConfig) :
    (ms.map unknown).foldl (fun c e => e.change c) c = c := by
  induction ms with
  | nil => rfl
  | cons m ms ih => exact ih

/-- The length, as a member of an object. -/
def lengthEntry (n : Nat) : Entry RuleConfig :=
  ⟨"id_length", Nat.toDigits 10 n, fun c => c.withIdLength n⟩

theorem filter_knows_eq_nil {ms : List (String × List Char)}
    (h : ∀ m ∈ ms, m.1 ≠ "id_length" ∧ Value m.2) :
    ((ms.map unknown).map Entry.key).filter layout.knows = [] := by
  rw [knows_eq, List.filter_eq_nil_iff]
  simp only [List.forall_mem_map, decide_eq_true_eq]
  exact fun m hm => (h m hm).1

/-- **A document with a natural number of 64 bits for the length holds the configuration of that
length.** -/
theorem Gives.holds {n : Nat} (hn : n ≤ maxSignificand) {document : List Char}
    (h : Gives (Nat.toDigits 10 n) document) : layout.Holds document ⟨n⟩ := by
  cases h with
  | @object before after hobject hunknown =>
    obtain ⟨hbefore, hafter⟩ := List.forall_mem_append.mp hunknown
    have haccepts : ∀ e ∈ before.map unknown ++ lengthEntry n :: after.map unknown,
        layout.Accepts e.key e.value e.change := by
      rw [List.forall_mem_append, List.forall_mem_cons, List.forall_mem_map, List.forall_mem_map]
      exact ⟨fun m hm => accepts_other (hbefore m hm), (takes_toDigits hn).accepts member?_length,
        fun m hm => accepts_other (hafter m hm)⟩
    have hlength : layout.knows (lengthEntry n).key = true := rfl
    have hkeys : (((before.map unknown ++ lengthEntry n :: after.map unknown).map Entry.key).filter
        layout.knows).Nodup := by
      rw [List.map_append, List.map_cons, List.filter_append, filter_knows_eq_nil hbefore,
        List.nil_append, List.filter_cons_of_pos hlength, filter_knows_eq_nil hafter]
      exact List.nodup_singleton _
    have hpairs : (before.map unknown ++ lengthEntry n :: after.map unknown).map Entry.pair =
        before ++ ("id_length", Nat.toDigits 10 n) :: after := by
      rw [List.map_append, List.map_cons, pairs_unknown, pairs_unknown]
      rfl
    have hholds := Json.Layout.holds_object haccepts hkeys (hpairs ▸ hobject)
    rw [List.foldl_append, List.foldl_cons, foldl_unknown, foldl_unknown] at hholds
    exact hholds
  | list hlist =>
    have hlength : [Nat.toDigits 10 n].length ≤ layout.members.length := Nat.le_refl 1
    exact Json.Layout.holds_list hlength (fun _ c => c.withIdLength n)
      (List.forall_mem_singleton.mpr (takes_toDigits hn))
      (List.forall_mem_singleton.mpr (Json.value_toDigits n)) hlist

/-- **A document with any other value for the length is refused.** -/
theorem Gives.refused {v : List Char} (hv : Value v)
    (hother : ∀ n, n ≤ maxSignificand → v ≠ Nat.toDigits 10 n) {document : String}
    (h : Gives v document.toList) : ∃ e, ofJson document = .error (.document e) := by
  have hrejects := rejects_value hv hother
  obtain ⟨e, he⟩ : ∃ e, layout.decode document = .error e := by
    cases h with
    | @object before after hobject hunknown =>
      obtain ⟨hbefore, hafter⟩ := List.forall_mem_append.mp hunknown
      have hvalues : ∀ m ∈ before ++ ("id_length", v) :: after, Value m.2 :=
        List.forall_mem_append.mpr ⟨fun m hm => (hbefore m hm).2,
          List.forall_mem_cons.mpr ⟨hv, fun m hm => (hafter m hm).2⟩⟩
      exact Json.Layout.decode_refused (fun m hm => accepts_or_refuses (hvalues m hm))
        (Or.inl ⟨("id_length", v), List.mem_append_right _ List.mem_cons_self,
          hrejects.refuses member?_length⟩) hobject
    | list hlist => exact Json.Layout.decode_list_refused members_eq hv hrejects hlist
  exact ⟨e, ofJson_eq_document_iff.mpr he⟩

/-- **An object with the length twice is refused**, whatever values it has there. -/
theorem refused_of_repeated {ms : List (String × List Char)} {document : String}
    (h : ObjectOf ms document.toList) (hvalues : ∀ m ∈ ms, Value m.2)
    (hlength : 2 ≤ (ms.map Prod.fst).count "id_length") :
    ∃ e, ofJson document = .error (.document e) := by
  have hrepeated : ¬ ((ms.map Prod.fst).filter layout.knows).Nodup := by
    intro hnodup
    have hcount := List.nodup_iff_count_le_one.mp hnodup "id_length"
    rw [List.count_filter (by decide)] at hcount
    omega
  obtain ⟨e, he⟩ := Json.Layout.decode_refused
    (fun m hm => accepts_or_refuses (hvalues m hm)) (Or.inr hrepeated) h
  exact ⟨e, ofJson_eq_document_iff.mpr he⟩

/-- **Nothing but blanks may follow a configuration**, whatever its length is. -/
theorem Gives.refused_of_trailing {n : Nat} (hn : n ≤ maxSignificand) {document junk : String}
    (h : Gives (Nat.toDigits 10 n) document.toList) (hjunk : ¬ Blanks junk.toList) :
    ∃ e, ofJson (document ++ junk) = .error (.document e) := by
  obtain ⟨e, he, -⟩ := (h.holds hn).decode_trailing hjunk
  exact ⟨e, ofJson_eq_document_iff.mpr he⟩

/-! ## Configurations -/

/-- What is decoded fits 64 bits, whatever it is decoded from. -/
theorem le_of_decode {document : String} {c : RuleConfig} (h : layout.decode document = .ok c) :
    c.idLength ≤ maxSignificand := by
  refine Json.Layout.invariant_of_decode (P := fun c => c.idLength ≤ maxSignificand) (by decide)
    ?_ h
  rw [members_eq]
  intro m hm s r f c hread _
  obtain rfl := List.mem_singleton.mp hm
  obtain ⟨n, hn, rfl⟩ := Json.Member.exists_of_read_ofReader _ hread
  exact Json.le_of_readNatural hn

/-- The document of a configuration holds its length. -/
theorem gives_toJson (c : RuleConfig) :
    Gives (Nat.toDigits 10 c.idLength) c.toJson.toList := by
  have hobject := Json.objectOf_written [lengthEntry c.idLength]
  rw [toJson, String.toList_ofList]
  exact @Gives.object _ _ [] [] hobject (List.forall_mem_nil _)

/-- A configuration that can be used is read back from its document. -/
theorem ofJson_toJson {c : RuleConfig} (hpos : c.idLength ≠ 0) (hn : c.idLength ≤ maxSignificand) :
    ofJson c.toJson = .ok c := by
  exact ofJson_eq_ok_iff.mpr ⟨((gives_toJson c).holds hn).decode, hpos⟩

/-- **The gate is exact.**

* A configuration that comes out of a document has a length from one to the largest number of 64
  bits, it is valid, and its own document gives it again.
* The configuration is at fault exactly if the whole document is one with a length of zero, and the
  document is at fault exactly if it is none; there is no other outcome.
* A natural number of any size, for the length, is kept exactly if it fits 64 bits and is not zero.
  Zero is a fault of the configuration and a larger number one of the document.
* Any other value for the length is a fault of the document: a number with a minus, a fraction or an
  exponent as much as a text, a word, a list or an object.
* So is anything but blanks behind the end of the document, and a second length in it, also where a
  length is zero. -/
theorem gate_is_exact :
    (∀ (document : String) (c : RuleConfig), ofJson document = .ok c →
      1 ≤ c.idLength ∧ c.idLength ≤ 18446744073709551615 ∧ c.validate = .ok () ∧
        ofJson c.toJson = .ok c) ∧
    (∀ document : String,
      ((∃ reason, ofJson document = .error (.config reason)) ↔
        layout.decode document = .ok ⟨0⟩) ∧
      ((∃ e, ofJson document = .error (.document e)) ↔
        ∃ e, layout.decode document = .error e) ∧
      ((∃ c, ofJson document = .ok c) ∨ (∃ reason, ofJson document = .error (.config reason)) ∨
        ∃ e, ofJson document = .error (.document e))) ∧
    (∀ (n : Nat) (document : String), Gives (Nat.toDigits 10 n) document.toList →
      (1 ≤ n → n < 18446744073709551616 → ofJson document = .ok ⟨n⟩) ∧
      (n = 0 → ∃ reason, ofJson document = .error (.config reason)) ∧
      (18446744073709551616 ≤ n → ∃ e, ofJson document = .error (.document e))) ∧
    (∀ (value : List Char) (document : String), Value value →
      (∀ n, value ≠ Nat.toDigits 10 n) → Gives value document.toList →
      ∃ e, ofJson document = .error (.document e)) ∧
    (∀ (n : Nat) (document junk : String), n < 18446744073709551616 →
      Gives (Nat.toDigits 10 n) document.toList → ¬ Blanks junk.toList →
      ∃ e, ofJson (document ++ junk) = .error (.document e)) ∧
    ∀ (ms : List (String × List Char)) (document : String), ObjectOf ms document.toList →
      (∀ m ∈ ms, Value m.2) → 2 ≤ (ms.map Prod.fst).count "id_length" →
      ∃ e, ofJson document = .error (.document e) := by
  have hmax : maxSignificand = 18446744073709551615 := rfl
  refine ⟨fun document c h => ?_, fun document => ⟨?_, ?_, outcome_cases document⟩,
    fun n document h => ⟨fun hpos hn => ?_, ?_, fun hn => ?_⟩,
    fun value document hv hother h => h.refused hv fun n _ => hother n,
    fun n document junk hn h hjunk => h.refused_of_trailing (by omega) hjunk,
    fun ms document h hvalues hlength => refused_of_repeated h hvalues hlength⟩
  · obtain ⟨hdecode, hpos⟩ := ofJson_eq_ok_iff.mp h
    have hle := le_of_decode hdecode
    exact ⟨Nat.pos_of_ne_zero hpos, hle, if_neg hpos, ofJson_toJson hpos hle⟩
  · simp [ofJson_eq_config_iff]
  · simp only [ofJson_eq_document_iff]
  · have hle : n ≤ maxSignificand := by omega
    exact ofJson_eq_ok_iff.mpr ⟨(h.holds hle).decode, Nat.ne_of_gt hpos⟩
  · rintro rfl
    exact ⟨zeroReason, ofJson_eq_config_iff.mpr ⟨(h.holds (Nat.zero_le _)).decode, rfl⟩⟩
  · -- no number that fits is written as `n` is
    refine h.refused (Json.value_toDigits n) fun k hk heq => ?_
    have : n = k := by
      rw [← Text.spelled_toDigits n, heq, Text.spelled_toDigits]
    omega

/-- The largest length and the next number, which is too large, in lists; a zero behind an unknown
member, with blanks; a minus in front of a zero; a zero with something behind its document; and one
with another length behind it. -/
theorem gate_at_the_limits :
    let zero := "\x7b \"more\":[[]] ,\"id_length\" : 0\x7d"
    let twice := "\x7b\"id_length\":0,\"id_length\":1\x7d"
    ofJson "[18446744073709551615]" = .ok ⟨18446744073709551615⟩ ∧
      ofJson (toJson ⟨18446744073709551615⟩) = .ok ⟨18446744073709551615⟩ ∧
      (∃ e, ofJson "[18446744073709551616]" = .error (.document e)) ∧
      (∃ reason, ofJson zero = .error (.config reason)) ∧
      (∃ e, ofJson "[-0]" = .error (.document e)) ∧
      (∃ e, ofJson (zero ++ "0") = .error (.document e)) ∧
      ∃ e, ofJson twice = .error (.document e) := by
  intro zero twice
  obtain ⟨hready, -, hnatural, hother, htrailing, htwice⟩ := gate_is_exact
  have hlist (value : List Char) : Gives value ('[' :: (value ++ [']'])) := .list (.single value)
  have hlargest : Gives (Nat.toDigits 10 18446744073709551615) "[18446744073709551615]".toList :=
    hlist _
  have hlarger : Gives (Nat.toDigits 10 18446744073709551616) "[18446744073709551616]".toList :=
    hlist _
  have hmore : Value "[[]]".toList :=
    Value.single (@Value.list [] [] (.nil (by decide)) (List.forall_mem_nil _))
  have hzero : Gives (Nat.toDigits 10 0) zero.toList := by
    have hobject : ObjectOf ([("more", "[[]]".toList)] ++ [("id_length", Nat.toDigits 10 0)])
        zero.toList :=
      ⟨[], _, [], by decide,
        .member [] [' '] [] [] (by decide) (Json.spells_written "more")
          (.member [' '] [] [' '] [' '] (by decide) (Json.spells_written "id_length")
            (.nil (List.forall_mem_nil _))),
        by decide, by decide +kernel⟩
    exact .object hobject (List.forall_mem_singleton.mpr ⟨by decide, hmore⟩)
  have hminus : Value "-0".toList :=
    .number (@Json.Numeral.parts ['-'] [] [] 0 (by decide) .none .none)
  have hobject : ObjectOf ([lengthEntry 0, lengthEntry 1].map Entry.pair) twice.toList := by
    have htext : twice.toList =
        Json.writtenObject ([lengthEntry 0, lengthEntry 1].map Entry.written) := by decide +kernel
    rw [htext]
    exact Json.objectOf_written _
  have hlength := (hnatural _ _ hlargest).1 (by decide) (by decide)
  refine ⟨hlength, (hready _ _ hlength).2.2.2, (hnatural _ _ hlarger).2.2 (by decide),
    (hnatural _ _ hzero).2.1 rfl, hother _ _ hminus (fun n h => ?_) (hlist _),
    htrailing 0 zero "0" (by decide) hzero (by decide), htwice _ _ hobject ?_ (by decide)⟩
  · exact @Text.toDigits_append_ne_cons n '-' [] ['0'] rfl (by rw [List.append_nil, ← h]; rfl)
  · rw [List.forall_mem_map, List.forall_mem_cons, List.forall_mem_singleton]
    exact ⟨Json.value_toDigits 0, Json.value_toDigits 1⟩

end RuleConfig
end Roster
