import Roster.Proofs.Json.Passing

/-!
# Records in all their forms

A record is read from every object that has its members in any order and from every list of its
first members, however the keys are spelled, whatever blanks stand around the tokens and whatever
unknown members stand between the known ones.

* `Member.Takes`, `Layout.Accepts` and `Layout.Refuses` — what becomes of the value behind a key.
* `Layout.readMembers_accepted` — members that are accepted make their changes one after the other,
  and the reader then stands in front of the next one.
* `Layout.holds_object` and `Layout.holds_list` — whole records in their two forms.
* `Layout.decode_repeated`, `Layout.decode_refused` and `Layout.Holds.decode_trailing` — what makes
  a document none of a record: a known key again, a value that is refused, or anything behind it.
* `Layout.invariant_of_decode` — what all values of the members keep holds of every record.
-/

set_option autoImplicit false

namespace Roster
namespace Json

variable {α : Type}

/-! ## Values of members -/

/-- A member reads a value as the given change, whatever stands around the value. -/
def Member.Takes (m : Member α) (value : List Char) (change : α → α) : Prop :=
  ∀ b r, Blanks b → FollowsValue r → m.read (b ++ (value ++ r)) = .ok (change, r)

/-- A member does not read a value, whatever stands around the value. -/
def Member.Rejects (m : Member α) (value : List Char) : Prop :=
  ∀ b r, Blanks b → FollowsValue r → ∃ e, m.read (b ++ (value ++ r)) = .error e

/-- A record reads the value behind a key as the given change, whatever stands around the value. -/
def Layout.Accepts (l : Layout α) (key : String) (value : List Char) (change : α → α) : Prop :=
  ∀ b r, Blanks b → FollowsValue r →
    readMember (l.member? key) (':' :: (b ++ (value ++ r))) = .ok (change, r)

/-- A record does not read the value behind a key, whatever stands around the value. -/
def Layout.Refuses (l : Layout α) (key : String) (value : List Char) : Prop :=
  ∀ b r, Blanks b → FollowsValue r →
    ∃ e, readMember (l.member? key) (':' :: (b ++ (value ++ r))) = .error e

/-- Whether a record has a member with a key. -/
def Layout.knows (l : Layout α) (key : String) : Bool := (l.member? key).isSome

variable {l : Layout α}

theorem Layout.knows_iff {key : String} :
    l.knows key = true ↔ key ∈ l.members.map Member.key := by
  simp [knows, member?]

theorem readMember_colon (m : Option (Member α)) (s : List Char) :
    readMember m (':' :: s) =
      match m with
      | some m => m.read s
      | none =>
        match skipValue s with
        | .error e => .error e
        | .ok r => .ok (id, r) := rfl

/-- A member takes what its reader of values reads. -/
theorem Member.takes_ofReader {β : Type} {key : String} {read : Reader β} {set : β → α → α}
    (hlt : ∀ {b s r}, read s = .ok (b, r) → r.length < s.length) {value : List Char} {x : β}
    (h : ∀ b r, Blanks b → FollowsValue r → read (b ++ (value ++ r)) = .ok (x, r)) :
    (Member.ofReader key read set hlt).Takes value (set x) :=
  fun b r hb hr => Member.read_ofReader hlt (h b r hb hr)

/-- A member rejects what its reader of values does not read. -/
theorem Member.rejects_ofReader {β : Type} {key : String} {read : Reader β} {set : β → α → α}
    (hlt : ∀ {b s r}, read s = .ok (b, r) → r.length < s.length) {value : List Char}
    (h : ∀ b r, Blanks b → FollowsValue r → ∃ e, read (b ++ (value ++ r)) = .error e) :
    (Member.ofReader key read set hlt).Rejects value := by
  intro b r hb hr
  obtain ⟨e, he⟩ := h b r hb hr
  exact ⟨e, congrArg (Except.map fun x : β × List Char => (set x.1, x.2)) he⟩

/-- What a member reads comes from its reader of values. -/
theorem Member.exists_of_read_ofReader {β : Type} {key : String} {read : Reader β}
    {set : β → α → α} (hlt : ∀ {b s r}, read s = .ok (b, r) → r.length < s.length)
    {s r : List Char} {f : α → α} (h : (Member.ofReader key read set hlt).read s = .ok (f, r)) :
    ∃ x, read s = .ok (x, r) ∧ f = set x := by
  have h : (read s).map (fun x : β × List Char => (set x.1, x.2)) = .ok (f, r) := h
  cases hx : read s with
  | error e => simp [hx, Except.map] at h
  | ok result =>
    simp only [hx, Except.map, Except.ok.injEq, Prod.mk.injEq] at h
    exact ⟨result.1, by rw [← h.2], h.1.symm⟩

/-- A value that its member takes is accepted. -/
theorem Member.Takes.accepts {m : Member α} {key : String} {value : List Char} {change : α → α}
    (h : m.Takes value change) (hm : l.member? key = some m) : l.Accepts key value change := by
  intro b r hb hr
  rw [readMember_colon, hm]
  exact h b r hb hr

/-- A value that is accepted behind the key of a member is taken by that member. -/
theorem Layout.Accepts.takes {m : Member α} {key : String} {value : List Char} {change : α → α}
    (h : l.Accepts key value change) (hm : l.member? key = some m) : m.Takes value change := by
  intro b r hb hr
  have hread := h b r hb hr
  rwa [readMember_colon, hm] at hread

/-- A value that its member rejects is refused. -/
theorem Member.Rejects.refuses {m : Member α} {key : String} {value : List Char}
    (h : m.Rejects value) (hm : l.member? key = some m) : l.Refuses key value := by
  intro b r hb hr
  rw [readMember_colon, hm]
  exact h b r hb hr

/-- Behind a key that the record does not know every value is accepted, and changes nothing. -/
theorem Layout.accepts_unknown {key : String} {value : List Char} (hkey : l.knows key = false)
    (h : Value value) : l.Accepts key value id := by
  have hm : l.member? key = none := Option.isNone_iff_eq_none.mp (by simpa [knows] using hkey)
  intro b r hb hr
  rw [readMember_colon, hm]
  simp only [skipValue_value h hb hr]

/-! ## Objects -/

/-- The key and the value of an entry. -/
def Entry.pair (e : Entry α) : String × List Char := (e.key, e.value)

/-- The written entries of an object stand inside of its braces. -/
theorem exists_inside_written (first : Bool) (es : List (Entry α)) :
    ∃ s, Inside (Labelled Spells) first (es.map Entry.pair) s ∧
      remaining first es = s ++ ['}'] := by
  induction es generalizing first with
  | nil => exact ⟨[], .nil (List.forall_mem_nil _), rfl⟩
  | cons e es ih =>
    obtain ⟨s, hs, hremaining⟩ := ih false
    refine ⟨_, .member [] [] [] [] (List.forall_mem_nil _) (spells_written e.key) hs, ?_⟩
    simp only [remaining, Entry.written, writtenMember, hremaining, List.append_assoc,
      List.nil_append, List.cons_append]

/-- **A written object is one of the forms of an object.** -/
theorem objectOf_written (es : List (Entry α)) :
    ObjectOf (es.map Entry.pair) (writtenObject (es.map Entry.written)) := by
  obtain ⟨s, hs, hremaining⟩ := exists_inside_written true es
  refine ⟨[], s, [], List.forall_mem_nil _, hs, List.forall_mem_nil _, ?_⟩
  rw [writtenObject_entries, hremaining]
  rfl

/-- Members that are accepted are entries, each with the change that its value makes. -/
theorem Layout.exists_entries {ms : List (String × List Char)}
    (h : ∀ m ∈ ms, ∃ change, l.Accepts m.1 m.2 change) :
    ∃ es : List (Entry α), es.map Entry.pair = ms ∧ ∀ e ∈ es, l.Accepts e.key e.value e.change := by
  induction ms with
  | nil => exact ⟨[], rfl, List.forall_mem_nil _⟩
  | cons m ms ih =>
    obtain ⟨change, hm⟩ := h m List.mem_cons_self
    obtain ⟨es, rfl, hes⟩ := ih fun m' hm' => h m' (List.mem_cons_of_mem _ hm')
    exact ⟨⟨m.1, m.2, change⟩ :: es, rfl, List.forall_mem_cons.mpr ⟨hm, hes⟩⟩

/-- The key of the next member is read, and what follows it is the colon with the value. -/
theorem nextKey_inside {first : Bool} {key : String} {value : List Char}
    {ms : List (String × List Char)} {s : List Char}
    (h : Inside (Labelled Spells) first ((key, value) :: ms) s) (r : List Char) :
    ∃ b b' s', Blanks b ∧ Blanks b' ∧ Inside (Labelled Spells) false ms s' ∧
      nextKey first (s ++ '}' :: r) =
        .ok (some key, b ++ ':' :: (b' ++ (value ++ (s' ++ '}' :: r)))) := by
  cases h with
  | @cons _ _ _ b₀ l b' _ s' hb₀ hl hb' hs =>
    obtain ⟨b₁, k, b, hb₁, hk, hb, rfl⟩ := hl
    refine ⟨b, b', s', hb, hb', hs, Eq.trans ?_ (nextKey_spelled first hb₀ hb₁ hk _)⟩
    simp only [List.append_assoc, List.nil_append, List.cons_append]

theorem readMember_blanks {b : List Char} (hb : Blanks b) (m : Option (Member α))
    (s : List Char) : readMember m (b ++ ':' :: s) = readMember m (':' :: s) := by
  rw [readMember, readMember, colon_append hb]
  rfl

/-- The keys that count as seen behind a member, if it was accepted. -/
def Layout.seenAfter (l : Layout α) (key : String) (seen : List String) : List String :=
  if l.knows key then key :: seen else seen

theorem Layout.mem_seenAfter {key key' : String} {seen : List String} :
    key' ∈ l.seenAfter key seen ↔ (l.knows key = true ∧ key' = key) ∨ key' ∈ seen := by
  rw [seenAfter]
  split <;> simp [*]

/-- An accepted member makes its change, and counts as seen if the record knows it. -/
theorem Layout.readMembers_accepts {first : Bool} {key : String} {value : List Char}
    {ms : List (String × List Char)} {s : List Char}
    (h : Inside (Labelled Spells) first ((key, value) :: ms) s) {change : α → α}
    (haccepts : l.Accepts key value change) {seen : List String} (hseen : key ∉ seen) (a : α)
    (r : List Char) :
    ∃ s', Inside (Labelled Spells) false ms s' ∧
      l.readMembers seen first a (s ++ '}' :: r) =
        l.readMembers (l.seenAfter key seen) false (change a) (s' ++ '}' :: r) := by
  obtain ⟨b, b', s', hb, hb', hs', hnext⟩ := nextKey_inside h r
  have hvalue : readMember (l.member? key) (':' :: (b' ++ (value ++ (s' ++ '}' :: r)))) = _ :=
    haccepts b' _ hb' (hs'.followsValue .curly r)
  refine ⟨s', hs', ?_⟩
  rw [readMembers_eq, hnext]
  simp only [if_neg hseen, readMember_blanks hb, hvalue]
  rfl

/-- A member that was seen before is a fault. -/
theorem Layout.readMembers_seen {first : Bool} {key : String} {value : List Char}
    {ms : List (String × List Char)} {s : List Char}
    (h : Inside (Labelled Spells) first ((key, value) :: ms) s) {seen : List String}
    (hseen : key ∈ seen) (a : α) (r : List Char) :
    ∃ e, l.readMembers seen first a (s ++ '}' :: r) = .error e ∧
      e.cause = .duplicateField key := by
  obtain ⟨b, b', s', -, -, -, hnext⟩ := nextKey_inside h r
  refine ⟨repeated key (b ++ ':' :: (b' ++ (value ++ (s' ++ '}' :: r)))), ?_, ?_⟩
  · rw [readMembers_eq, hnext]
    simp only [if_pos hseen]
  · rw [repeated.eq_def]
    split <;> rfl

/-- A member that is refused is a fault. -/
theorem Layout.readMembers_refuses {first : Bool} {key : String} {value : List Char}
    {ms : List (String × List Char)} {s : List Char}
    (h : Inside (Labelled Spells) first ((key, value) :: ms) s) (hrefuses : l.Refuses key value)
    (seen : List String) (a : α) (r : List Char) :
    ∃ e, l.readMembers seen first a (s ++ '}' :: r) = .error e := by
  by_cases hseen : key ∈ seen
  · obtain ⟨e, he, -⟩ := readMembers_seen (l := l) h hseen a r
    exact ⟨e, he⟩
  · obtain ⟨b, b', s', hb, hb', hs', hnext⟩ := nextKey_inside h r
    obtain ⟨e, he⟩ : ∃ e, readMember (l.member? key)
        (':' :: (b' ++ (value ++ (s' ++ '}' :: r)))) = .error e :=
      hrefuses b' _ hb' (hs'.followsValue .curly r)
    refine ⟨e, ?_⟩
    rw [readMembers_eq, hnext]
    simp only [if_neg hseen, readMember_blanks hb, he]

/-- **Accepted members make their changes one after the other**, if no known key among them occurs
twice or did before.  The reader then stands in front of the next member. -/
theorem Layout.readMembers_accepted {es : List (Entry α)} {ms : List (String × List Char)}
    (haccepts : ∀ e ∈ es, l.Accepts e.key e.value e.change)
    (hkeys : ((es.map Entry.key).filter l.knows).Nodup) {seen : List String}
    (hseen : ∀ e ∈ es, e.key ∉ seen) {first : Bool} {s : List Char}
    (h : Inside (Labelled Spells) first (es.map Entry.pair ++ ms) s) (a : α) (r : List Char) :
    ∃ seen' first' s',
      (∀ key, key ∈ seen' ↔ key ∈ seen ∨ l.knows key = true ∧ key ∈ es.map Entry.key) ∧
      Inside (Labelled Spells) first' ms s' ∧
      l.readMembers seen first a (s ++ '}' :: r) =
        l.readMembers seen' first' (es.foldl (fun a e => e.change a) a) (s' ++ '}' :: r) := by
  induction es generalizing seen first s a with
  | nil => exact ⟨seen, first, s, by simp, h, rfl⟩
  | cons e es ih =>
    obtain ⟨s₁, hs₁, hread₁⟩ := readMembers_accepts h (haccepts e List.mem_cons_self)
      (hseen e List.mem_cons_self) a r
    -- from here on the key of `e` counts as seen if it is known, and then no later entry has it
    have hlater : ∀ e' ∈ es, e'.key ∉ l.seenAfter e.key seen := by
      intro e' he' hmem
      rcases mem_seenAfter.mp hmem with ⟨hknows, heq⟩ | hold
      · rw [List.map_cons, List.filter_cons_of_pos hknows, List.nodup_cons] at hkeys
        refine hkeys.1 (List.mem_filter.mpr ⟨?_, hknows⟩)
        exact heq ▸ List.mem_map_of_mem he'
      · exact hseen e' (List.mem_cons_of_mem _ he') hold
    have hrest : ((es.map Entry.key).filter l.knows).Nodup :=
      hkeys.sublist (((List.sublist_cons_self _ _).map _).filter _)
    obtain ⟨seen', first', s', hseen', hs', hread⟩ :=
      ih (fun e' he' => haccepts e' (List.mem_cons_of_mem _ he')) hrest hlater hs₁ (e.change a)
    refine ⟨seen', first', s', fun key => ?_, hs', hread₁.trans hread⟩
    rw [hseen' key, mem_seenAfter, List.map_cons, List.mem_cons]
    grind

/-- **A refused or repeated member makes an object no record**, if every other member is accepted
or refused as well. -/
theorem Layout.readMembers_error {ms : List (String × List Char)}
    (hsettled : ∀ m ∈ ms, (∃ change, l.Accepts m.1 m.2 change) ∨ l.Refuses m.1 m.2)
    {seen : List String}
    (hbad : (∃ m ∈ ms, l.Refuses m.1 m.2) ∨ (∃ m ∈ ms, m.1 ∈ seen) ∨
      ¬ ((ms.map Prod.fst).filter l.knows).Nodup)
    {first : Bool} {s : List Char} (h : Inside (Labelled Spells) first ms s) (a : α)
    (r : List Char) : ∃ e, l.readMembers seen first a (s ++ '}' :: r) = .error e := by
  induction ms generalizing seen first s a with
  | nil => simp at hbad
  | cons m ms ih =>
    by_cases hrefuses : l.Refuses m.1 m.2
    · exact readMembers_refuses h hrefuses seen a r
    by_cases hseen : m.1 ∈ seen
    · obtain ⟨e, he, -⟩ := readMembers_seen (l := l) h hseen a r
      exact ⟨e, he⟩
    obtain ⟨change, haccepts⟩ := (hsettled m List.mem_cons_self).resolve_right hrefuses
    obtain ⟨s', hs', hread⟩ := readMembers_accepts h haccepts hseen a r
    -- what is wrong lies behind `m`: its key was not seen, but it may be the one that is repeated
    have hbad' : (∃ m' ∈ ms, l.Refuses m'.1 m'.2) ∨
        (∃ m' ∈ ms, m'.1 ∈ l.seenAfter m.1 seen) ∨
        ¬ ((ms.map Prod.fst).filter l.knows).Nodup := by
      rcases hbad with ⟨m', hm', hm'r⟩ | ⟨m', hm', hm's⟩ | hnodup
      · rcases List.mem_cons.mp hm' with rfl | hm'
        · exact absurd hm'r hrefuses
        · exact Or.inl ⟨m', hm', hm'r⟩
      · rcases List.mem_cons.mp hm' with rfl | hm'
        · exact absurd hm's hseen
        · exact Or.inr (Or.inl ⟨m', hm', mem_seenAfter.mpr (Or.inr hm's)⟩)
      · rw [List.map_cons, List.filter_cons] at hnodup
        split at hnodup
        · rename_i hknows
          by_cases hmem : m.1 ∈ (ms.map Prod.fst).filter l.knows
          · obtain ⟨m', hm', heq⟩ := List.mem_map.mp (List.mem_filter.mp hmem).1
            exact Or.inr (Or.inl ⟨m', hm', mem_seenAfter.mpr (Or.inl ⟨hknows, heq⟩)⟩)
          · exact Or.inr (Or.inr fun htail => hnodup (List.nodup_cons.mpr ⟨hmem, htail⟩))
        · exact Or.inr (Or.inr hnodup)
    obtain ⟨e, he⟩ := ih (fun m' hm' => hsettled m' (List.mem_cons_of_mem _ hm')) hbad' hs'
      (change a)
    exact ⟨e, hread.trans he⟩

/-! ## Lists -/

/-- Behind blanks the closing bracket is no item. -/
theorem nextItem_blanks {b : List Char} (hb : Blanks b) (first : Bool) (r : List Char) :
    nextItem first (b ++ ']' :: r) = .ok none := by
  rw [nextItem, dropBlanks_append_cons hb (by decide)]
  rfl

theorem endList_blanks {b : List Char} (hb : Blanks b) (r : List Char) :
    endList (b ++ ']' :: r) = .ok r := by
  rw [endList, dropBlanks_append_cons hb (by decide)]
  rfl

/-- The next item is found, and nothing stands before it. -/
theorem nextItem_inside {first : Bool} {u : Unit} {value : List Char}
    {vs : List (Unit × List Char)} {s : List Char}
    (h : Inside Unlabelled first ((u, value) :: vs) s) (hvalue : Value value) (r : List Char) :
    ∃ s', Inside Unlabelled false vs s' ∧
      nextItem first (s ++ ']' :: r) = .ok (some (value ++ (s' ++ ']' :: r))) := by
  obtain ⟨c, t, rfl, hblank, hmark⟩ := hvalue.exists_cons
  have hclosing : c ≠ ']' := by
    rintro rfl
    exact hmark Bracket.square.closing_mem
  cases h with
  | @cons _ _ _ b l b' _ s' hb hl hb' hs =>
    obtain rfl := hl
    have hitem : dropBlanks (b' ++ (c :: t ++ (s' ++ ']' :: r))) = c :: (t ++ (s' ++ ']' :: r)) :=
      dropBlanks_append_cons hb' hblank _
    refine ⟨s', hs, ?_⟩
    rw [nextItem]
    simp only [List.append_assoc, dropBlanks_append hb, List.nil_append]
    cases first with
    | true =>
      rw [separator, if_pos rfl, List.nil_append, hitem]
      simp only [if_neg hclosing, if_true]
      rfl
    | false =>
      rw [separator, if_neg Bool.false_ne_true, List.singleton_append,
        dropBlanks_cons (by decide)]
      simp only [if_neg (show ¬ ',' = ']' by decide), Bool.false_eq_true, if_false, if_true,
        hitem, if_neg hclosing]
      rfl

/-- **The items of a list are read into the members one after the other**, up to the closing
bracket; the members for which there is no item stay as they are. -/
theorem readItems_inside {members : List (Member α)} {values : List (List Char)}
    (hlength : values.length ≤ members.length) (change : String → α → α)
    (htakes : ∀ p ∈ members.zip values, p.1.Takes p.2 (change p.1.key))
    (hvalues : ∀ v ∈ values, Value v) {first : Bool} {s : List Char}
    (h : Inside Unlabelled first (values.map fun v => ((), v)) s) (a : α) (r : List Char) :
    readItems a first members (s ++ ']' :: r) =
      .ok (((members.take values.length).map Member.key).foldl (fun a key => change key a) a,
        r) := by
  induction values generalizing members first s a with
  | nil =>
    cases h with
    | nil hb =>
      cases members with
      | nil => simp only [readItems, endList_blanks hb, List.take_nil, List.map_nil, List.foldl_nil]
      | cons m members =>
        simp only [readItems, nextItem_blanks hb, endList_blanks hb, List.length_nil,
          List.take_zero, List.map_nil, List.foldl_nil]
  | cons v values ih =>
    cases members with
    | nil => exact absurd hlength (Nat.not_succ_le_zero _)
    | cons m members =>
      obtain ⟨s', hs', hnext⟩ := nextItem_inside h (hvalues v List.mem_cons_self) r
      have htake : m.read (v ++ (s' ++ ']' :: r)) = .ok (change m.key, s' ++ ']' :: r) :=
        htakes (m, v) List.mem_cons_self [] _ (List.forall_mem_nil _)
          (hs'.followsValue .square r)
      simp only [readItems, hnext, htake, List.length_cons, List.take_succ_cons, List.map_cons,
        List.foldl_cons]
      exact ih (Nat.le_of_succ_le_succ hlength)
        (fun p hp => htakes p (List.mem_cons_of_mem _ hp))
        (fun v' hv' => hvalues v' (List.mem_cons_of_mem _ hv')) hs' (change m.key a)

/-! ## Documents -/

theorem Layout.read_object {b : List Char} (hb : Blanks b) (s : List Char) :
    l.read (b ++ '{' :: s) = l.readMembers [] true l.initial s := by
  rw [read, dropBlanks_append_cons hb (by decide)]
  rfl

theorem Layout.read_list {b : List Char} (hb : Blanks b) (s : List Char) :
    l.read (b ++ '[' :: s) = readItems l.initial true l.members s := by
  rw [read, dropBlanks_append_cons hb (by decide)]
  rfl

/-- A document holds a record if it is read as one in front of any other text, up to blanks. -/
def Layout.Holds (l : Layout α) (document : List Char) (a : α) : Prop :=
  ∃ b, Blanks b ∧ ∀ r, l.read (document ++ r) = .ok (a, b ++ r)

/-- **An object holds the record that its members make of a new one.** -/
theorem Layout.holds_object {es : List (Entry α)}
    (haccepts : ∀ e ∈ es, l.Accepts e.key e.value e.change)
    (hkeys : ((es.map Entry.key).filter l.knows).Nodup) {document : List Char}
    (h : ObjectOf (es.map Entry.pair) document) :
    l.Holds document (es.foldl (fun a e => e.change a) l.initial) := by
  obtain ⟨b, s, b', hb, hs, hb', rfl⟩ := h
  refine ⟨b', hb', fun r => ?_⟩
  rw [← List.append_nil (es.map Entry.pair)] at hs
  obtain ⟨seen, first, s', -, hs', hread⟩ :=
    readMembers_accepted haccepts hkeys (fun _ _ => List.not_mem_nil) hs l.initial (b' ++ r)
  cases hs' with
  | nil hblanks =>
    rw [List.append_assoc, List.cons_append, List.append_assoc, List.cons_append, read_object hb,
      hread, readMembers_eq, nextKey_blanks hblanks]

/-- **A list holds the record that its items make of a new one.** -/
theorem Layout.holds_list {values : List (List Char)}
    (hlength : values.length ≤ l.members.length) (change : String → α → α)
    (htakes : ∀ p ∈ l.members.zip values, p.1.Takes p.2 (change p.1.key))
    (hvalues : ∀ v ∈ values, Value v) {document : List Char} (h : ListOf values document) :
    l.Holds document (((l.members.take values.length).map Member.key).foldl
      (fun a key => change key a) l.initial) := by
  obtain ⟨b, s, b', hb, hs, hb', rfl⟩ := h
  refine ⟨b', hb', fun r => ?_⟩
  rw [List.append_assoc, List.cons_append, List.append_assoc, List.cons_append, read_list hb]
  exact readItems_inside hlength change htakes hvalues hs l.initial (b' ++ r)

/-- The record that a document holds is decoded. -/
theorem Layout.Holds.decode {document : String} {a : α} (h : l.Holds document.toList a) :
    l.decode document = .ok a := by
  obtain ⟨b, hb, hread⟩ := h
  have hread : l.read document.toList = .ok (a, b) := by simpa using hread []
  have hend : dropBlanks b = [] := dropBlanks_eq_nil_iff.mpr hb
  have hall : readAll l.read document.toList = .ok a := by
    rw [readAll, hread]
    simp only [hend]
  rw [Layout.decode, hall]
  rfl

/-- A fault that the reader finds is the error of the document. -/
theorem Layout.decode_of_readAll {document : String} {fault : Fault}
    (h : readAll l.read document.toList = .error fault) :
    ∃ e, l.decode document = .error e ∧ e.cause = fault.cause :=
  ⟨fault.locate document.toList, by rw [Layout.decode, h]; rfl, rfl⟩

theorem readAll_of_error {read : Reader α} {s : List Char} {fault : Fault}
    (h : read s = .error fault) : readAll read s = .error fault := by
  rw [readAll, h]

/-- **Nothing but blanks may follow a record.** -/
theorem Layout.Holds.decode_trailing {document junk : String} {a : α}
    (h : l.Holds document.toList a) (hjunk : ¬ Blanks junk.toList) :
    ∃ e, l.decode (document ++ junk) = .error e ∧ e.cause = .trailingCharacters := by
  obtain ⟨b, hb, hread⟩ := h
  have hread : l.read (document ++ junk).toList = .ok (a, b ++ junk.toList) := by
    rw [String.toList_append]
    exact hread junk.toList
  obtain ⟨c, t, hrest⟩ := List.exists_cons_of_ne_nil (mt dropBlanks_eq_nil_iff.mp hjunk)
  have hall : readAll l.read (document ++ junk).toList =
      .error (.next .trailingCharacters (c :: t)) := by
    rw [readAll, hread]
    simp only [dropBlanks_append hb, hrest]
  exact decode_of_readAll hall

/-- **A known key that is repeated makes an object no record**, and the error names the first one:
before it, all is accepted and no known key is repeated. -/
theorem Layout.decode_repeated {es : List (Entry α)}
    (haccepts : ∀ e ∈ es, l.Accepts e.key e.value e.change)
    (hkeys : ((es.map Entry.key).filter l.knows).Nodup) {key : String}
    (hknows : l.knows key = true) (hkey : key ∈ es.map Entry.key) {value : List Char}
    {ms : List (String × List Char)} {document : String}
    (h : ObjectOf (es.map Entry.pair ++ (key, value) :: ms) document.toList) :
    ∃ e, l.decode document = .error e ∧ e.cause = .duplicateField key := by
  obtain ⟨b, s, b', hb, hs, hb', hdocument⟩ := h
  obtain ⟨seen, first, s', hseen, hs', hread⟩ :=
    readMembers_accepted haccepts hkeys (fun _ _ => List.not_mem_nil) hs l.initial b'
  obtain ⟨fault, hfault, hcause⟩ := readMembers_seen (l := l) hs'
    ((hseen key).mpr (Or.inr ⟨hknows, hkey⟩)) (es.foldl (fun a e => e.change a) l.initial) b'
  have hread : l.read document.toList = .error fault := by
    rw [hdocument, read_object hb, hread, hfault]
  exact hcause ▸ decode_of_readAll (readAll_of_error hread)

/-- **A refused member or a repeated one makes an object no record**, whatever else is in it. -/
theorem Layout.decode_refused {ms : List (String × List Char)}
    (hsettled : ∀ m ∈ ms, (∃ change, l.Accepts m.1 m.2 change) ∨ l.Refuses m.1 m.2)
    (hbad : (∃ m ∈ ms, l.Refuses m.1 m.2) ∨ ¬ ((ms.map Prod.fst).filter l.knows).Nodup)
    {document : String} (h : ObjectOf ms document.toList) : ∃ e, l.decode document = .error e := by
  obtain ⟨b, s, b', hb, hs, -, hdocument⟩ := h
  obtain ⟨fault, hfault⟩ : ∃ fault, l.readMembers [] true l.initial (s ++ '}' :: b') =
      .error fault := readMembers_error hsettled (hbad.imp_right Or.inr) hs l.initial b'
  have hread : l.read document.toList = .error fault := by
    rw [hdocument, read_object hb, hfault]
  obtain ⟨e, he, -⟩ := decode_of_readAll (readAll_of_error hread)
  exact ⟨e, he⟩

/-- **A list is no record either if its first item is refused.** -/
theorem Layout.decode_list_refused {m : Member α} {members : List (Member α)}
    (hmembers : l.members = m :: members) {value : List Char} (hvalue : Value value)
    (hrejects : m.Rejects value) {values : List (List Char)} {document : String}
    (h : ListOf (value :: values) document.toList) : ∃ e, l.decode document = .error e := by
  obtain ⟨b, s, b', hb, hs, -, hdocument⟩ := h
  obtain ⟨s', hs', hnext⟩ := nextItem_inside hs hvalue b'
  obtain ⟨fault, hfault⟩ : ∃ e, m.read (value ++ (s' ++ ']' :: b')) = .error e :=
    hrejects [] _ (List.forall_mem_nil _) (hs'.followsValue .square b')
  have hread : l.read document.toList = .error fault := by
    rw [hdocument, read_list hb, hmembers, readItems, hnext]
    simp only [hfault]
  obtain ⟨e, he, -⟩ := decode_of_readAll (readAll_of_error hread)
  exact ⟨e, he⟩

/-! ## What every record keeps -/

theorem readItems_invariant {P : α → Prop} {members : List (Member α)}
    (hmembers : ∀ m ∈ members, ∀ {s r f a}, m.read s = .ok (f, r) → P a → P (f a)) {a a' : α}
    (ha : P a) {first : Bool} {s r : List Char}
    (h : readItems a first members s = .ok (a', r)) : P a' := by
  have hend {a a' : α} {s r : List Char} (ha : P a)
      (h : (match endList s with
        | .error e => Except.error e
        | .ok r => .ok (a, r)) = .ok (a', r)) : P a' := by
    split at h
    · simp at h
    · simp only [Except.ok.injEq, Prod.mk.injEq] at h
      exact h.1 ▸ ha
  induction members generalizing a first s with
  | nil => exact hend ha h
  | cons m members ih =>
    rw [readItems] at h
    split at h
    · simp at h
    · exact hend ha h
    · split at h
      · simp at h
      · rename_i hread
        exact ih (fun m' hm' => hmembers m' (List.mem_cons_of_mem _ hm'))
          (hmembers m List.mem_cons_self hread ha) h

theorem Layout.readMembers_invariant {P : α → Prop}
    (hmembers : ∀ m ∈ l.members, ∀ {s r f a}, m.read s = .ok (f, r) → P a → P (f a))
    {seen : List String} {first : Bool} {a a' : α} (ha : P a) {s r : List Char}
    (h : l.readMembers seen first a s = .ok (a', r)) : P a' := by
  have hmember {key : String} {s r : List Char} {f : α → α} {a : α}
      (hread : readMember (l.member? key) s = .ok (f, r)) (ha : P a) : P (f a) := by
    rw [readMember] at hread
    split at hread
    · simp at hread
    · split at hread
      · rename_i m hm
        exact hmembers m (List.mem_of_find?_eq_some hm) hread ha
      · split at hread
        · simp at hread
        · simp only [Except.ok.injEq, Prod.mk.injEq] at hread
          exact hread.1 ▸ ha
  fun_induction Layout.readMembers l seen first a s with
  | case1 => simp at h
  | case2 =>
    simp only [Except.ok.injEq, Prod.mk.injEq] at h
    exact h.1 ▸ ha
  | case3 => simp at h
  | case4 => simp at h
  | case5 seen first a s key r₁ hk hseen f r₂ hm ih => exact ih (hmember hm ha) h

/-- **What a new record has and no value takes away holds of every record** that is decoded. -/
theorem Layout.invariant_of_decode {P : α → Prop} (hinitial : P l.initial)
    (hmembers : ∀ m ∈ l.members, ∀ {s r f a}, m.read s = .ok (f, r) → P a → P (f a))
    {document : String} {a : α} (h : l.decode document = .ok a) : P a := by
  obtain ⟨r, hread⟩ : ∃ r, l.read document.toList = .ok (a, r) := by
    rw [decode, readAll] at h
    split at h
    · simp [Except.mapError] at h
    · rename_i b r hb
      split at h
      · simp only [Except.mapError, Except.ok.injEq] at h
        exact ⟨r, h ▸ hb⟩
      · simp [Except.mapError] at h
  rw [read] at hread
  split at hread
  · simp at hread
  · split at hread
    · exact readItems_invariant hmembers hinitial hread
    · split at hread
      · exact readMembers_invariant hmembers hinitial hread
      · simp at hread

end Json
end Roster
