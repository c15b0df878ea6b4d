import Roster.Proofs.Json.Forms

/-!
# Records with one bad value

One value that its member cannot read makes a document none of a record, in both forms, if all that
stands before it is accepted.  The error of the document then has the cause of that value.

* `Member.Faults` and `Layout.Faults` — values that are not read, for a given cause.
* `Layout.decode_faulty` and `Layout.decode_list_faulty` — the objects and the lists with such a
  value.
-/

set_option autoImplicit false

namespace Roster
namespace Json

variable {α : Type}

/-- A member does not read a value for a cause, whatever stands around the value. -/
def Member.Faults (m : Member α) (value : List Char) (cause : Cause) : Prop :=
  ∀ b r, Blanks b → FollowsValue r →
    ∃ fault, m.read (b ++ (value ++ r)) = .error fault ∧ fault.cause = cause

/-- A record does not read the value behind a key for a cause, whatever stands around the value. -/
def Layout.Faults (l : Layout α) (key : String) (value : List Char) (cause : Cause) : Prop :=
  ∀ b r, Blanks b → FollowsValue r →
    ∃ fault, readMember (l.member? key) (':' :: (b ++ (value ++ r))) = .error fault ∧
      fault.cause = cause

/-- A member does not read what its reader of values does not read, and for the same cause. -/
theorem Member.faults_ofReader {β : Type} {key : String} {read : Reader β} {set : β → α → α}
    (hlt : ∀ {b s r}, read s = .ok (b, r) → r.length < s.length) {value : List Char} {cause : Cause}
    (h : ∀ b r, Blanks b → FollowsValue r →
      ∃ fault, read (b ++ (value ++ r)) = .error fault ∧ fault.cause = cause) :
    (Member.ofReader key read set hlt).Faults value cause := by
  intro b r hb hr
  obtain ⟨fault, hfault, hcause⟩ := h b r hb hr
  exact ⟨fault, congrArg (Except.map fun x : β × List Char => (set x.1, x.2)) hfault, hcause⟩

variable {l : Layout α} {cause : Cause}

theorem Member.Faults.faults {m : Member α} {key : String} {value : List Char}
    (h : m.Faults value cause) (hm : l.member? key = some m) : l.Faults key value cause := by
  intro b r hb hr
  rw [readMember_colon, hm]
  exact h b r hb hr

theorem Layout.Faults.member {m : Member α} {key : String} {value : List Char}
    (h : l.Faults key value cause) (hm : l.member? key = some m) : m.Faults value cause := by
  intro b r hb hr
  have hread := h b r hb hr
  rwa [readMember_colon, hm] at hread

/-! ## Objects -/

/-- A value that is not read ends an object with its cause, if its key was not seen before. -/
theorem Layout.readMembers_faulty {first : Bool} {key : String} {value : List Char}
    {ms : List (String × List Char)} {s : List Char}
    (h : Inside (Labelled Spells) first ((key, value) :: ms) s) (hfaults : l.Faults key value cause)
    {seen : List String} (hseen : key ∉ seen) (a : α) (r : List Char) :
    ∃ fault, l.readMembers seen first a (s ++ '}' :: r) = .error fault ∧ fault.cause = cause := by
  obtain ⟨b, b', s', hb, hb', hs', hnext⟩ := nextKey_inside h r
  obtain ⟨fault, hfault, hcause⟩ : ∃ fault, readMember (l.member? key)
      (':' :: (b' ++ (value ++ (s' ++ '}' :: r)))) = .error fault ∧ fault.cause = cause :=
    hfaults b' _ hb' (hs'.followsValue .curly r)
  refine ⟨fault, ?_, hcause⟩
  rw [readMembers_eq, hnext]
  simp only [if_neg hseen, readMember_blanks hb, hfault]

/-- **An object with a value that is not read is no record**, and the error has the cause of that
value if the members before it are accepted and have other keys. -/
theorem Layout.decode_faulty {es : List (Entry α)}
    (haccepts : ∀ e ∈ es, l.Accepts e.key e.value e.change)
    (hkeys : ((es.map Entry.key).filter l.knows).Nodup) {key : String}
    (hkey : key ∉ es.map Entry.key) {value : List Char} (hfaults : l.Faults key value cause)
    {ms : List (String × List Char)} {document : String}
    (h : ObjectOf (es.map Entry.pair ++ (key, value) :: ms) document.toList) :
    ∃ e, l.decode document = .error e ∧ e.cause = cause := by
  obtain ⟨b, s, b', hb, hs, hb', hdocument⟩ := h
  obtain ⟨seen, first, s', hseen, hs', hread⟩ :=
    readMembers_accepted haccepts hkeys (fun _ _ => List.not_mem_nil) hs l.initial b'
  have hnew : key ∉ seen := by
    rw [hseen]
    rintro (hnil | ⟨-, hmem⟩)
    · exact List.not_mem_nil hnil
    · exact hkey hmem
  obtain ⟨fault, hfault, hcause⟩ := readMembers_faulty hs' hfaults hnew
    (es.foldl (fun a e => e.change a) l.initial) b'
  have hread : l.read document.toList = .error fault := by
    rw [hdocument, read_object hb, hread, hfault]
  exact hcause ▸ decode_of_readAll (readAll_of_error hread)

/-! ## Lists -/

/-- An item that is not read ends a list with its cause, if the items before it are taken. -/
theorem readItems_faulty {taken rest : List (Member α)} {m : Member α}
    {values later : List (List Char)} {value : List Char} (hlength : values.length = taken.length)
    (change : String → α → α)
    (htakes : ∀ p ∈ taken.zip values, p.1.Takes p.2 (change p.1.key))
    (hvalues : ∀ v ∈ values, Value v) (hvalue : Value value) (hfaults : m.Faults value cause)
    {first : Bool} {s : List Char}
    (h : Inside Unlabelled first ((values ++ value :: later).map fun v => ((), v)) s) (a : α)
    (r : List Char) :
    ∃ fault, readItems a first (taken ++ m :: rest) (s ++ ']' :: r) = .error fault ∧
      fault.cause = cause := by
  induction values generalizing taken first s a with
  | nil =>
    obtain rfl : taken = [] := List.eq_nil_of_length_eq_zero hlength.symm
    obtain ⟨s', hs', hnext⟩ := nextItem_inside h hvalue r
    obtain ⟨fault, hfault, hcause⟩ : ∃ fault, m.read (value ++ (s' ++ ']' :: r)) = .error fault ∧
        fault.cause = cause :=
      hfaults [] _ (List.forall_mem_nil _) (hs'.followsValue .square r)
    refine ⟨fault, ?_, hcause⟩
    rw [List.nil_append, readItems, hnext]
    simp only [hfault]
  | cons v values ih =>
    cases taken with
    | nil => cases hlength
    | cons t taken =>
      obtain ⟨s', hs', hnext⟩ := nextItem_inside h (hvalues v List.mem_cons_self) r
      have htake : t.read (v ++ (s' ++ ']' :: r)) = .ok (change t.key, s' ++ ']' :: r) :=
        htakes (t, v) List.mem_cons_self [] _ (List.forall_mem_nil _)
          (hs'.followsValue .square r)
      obtain ⟨fault, hfault, hcause⟩ := ih (Nat.succ.inj hlength)
        (fun p hp => htakes p (List.mem_cons_of_mem _ hp))
        (fun v' hv' => hvalues v' (List.mem_cons_of_mem _ hv')) hs' (change t.key a)
      refine ⟨fault, ?_, hcause⟩
      rw [List.cons_append, readItems, hnext]
      simp only [htake, hfault]

/-- **A list with an item that is not read is no record**, and the error has the cause of that item
if the items before it are taken. -/
theorem Layout.decode_list_faulty {taken rest : List (Member α)} {m : Member α}
    (hmembers : l.members = taken ++ m :: rest) {values later : List (List Char)}
    {value : List Char} (hlength : values.length = taken.length) (change : String → α → α)
    (htakes : ∀ p ∈ taken.zip values, p.1.Takes p.2 (change p.1.key))
    (hvalues : ∀ v ∈ values, Value v) (hvalue : Value value) (hfaults : m.Faults value cause)
    {document : String} (h : ListOf (values ++ value :: later) document.toList) :
    ∃ e, l.decode document = .error e ∧ e.cause = cause := by
  obtain ⟨b, s, b', hb, hs, -, hdocument⟩ := h
  obtain ⟨fault, hfault, hcause⟩ : ∃ fault,
      readItems l.initial true (taken ++ m :: rest) (s ++ ']' :: b') = .error fault ∧
        fault.cause = cause :=
    readItems_faulty hlength change htakes hvalues hvalue hfaults hs l.initial b'
  have hread : l.read document.toList = .error fault := by
    rw [hdocument, read_list hb, hmembers, hfault]
  exact hcause ▸ decode_of_readAll (readAll_of_error hread)

end Json
end Roster
