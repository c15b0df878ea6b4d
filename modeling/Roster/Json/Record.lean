import Roster.Json.Skip
import Roster.Json.Value

/-!
# Records

A record is written as an object with its members in any order, or as a list of its members in
their own order.  A member that is left out keeps the value it has in a new record.  An object may
have members that the record does not know; their values are passed over.  A member that the
record knows may stand in an object once.

* `Layout` — the members of a record and how each is read.
* `Layout.read` — the reader of a record.
* `Layout.decode` — reads a whole document that holds one record and nothing else.
-/

set_option autoImplicit false

namespace Roster
namespace Json

/-- A member of a record: its key, and the reader of its value, which gives the change that the
value makes to the record.  The reader uses up some text. -/
structure Member (α : Type) where
  key : String
  read : Reader (α → α)
  length_lt : ∀ {s r f}, read s = .ok (f, r) → r.length < s.length

/-- A member whose value is of type `β`, from a reader of such values. -/
def Member.ofReader {α β : Type} (key : String) (read : Reader β) (set : β → α → α)
    (h : ∀ {b s r}, read s = .ok (b, r) → r.length < s.length) : Member α where
  key := key
  read s := (read s).map fun (b, r) => (set b, r)
  length_lt {s r f} hf := by
    match hb : read s with
    | .error e => simp [hb, Except.map] at hf
    | .ok (b, r') =>
      simp only [hb, Except.map, Except.ok.injEq, Prod.mk.injEq] at hf
      exact hf.2 ▸ h hb

/-- The name of a kind of record, a new record, and the members in their order. -/
structure Layout (α : Type) where
  name : String
  initial : α
  members : List (Member α)

variable {α : Type}

/-! ## Lists -/

/-- Looks for the next item of a list: gives the text in front of it, or nothing in front of the
closing bracket.  An item that is not the first follows a comma. -/
def nextItem (first : Bool) (s : List Char) : Except Fault (Option (List Char)) :=
  match dropBlanks s with
  | [] => .error (.here .endInList [])
  | c :: r =>
    if c = ']' then .ok none
    else if first then .ok (some (c :: r))
    else if c = ',' then
      match dropBlanks r with
      | [] => .error (.here .endInValue [])
      | d :: t =>
        if d = ']' then .error (.next .trailingComma (d :: t)) else .ok (some (d :: t))
    else .error (.next .expectedListCommaOrEnd (c :: r))

/-- Reads the closing bracket of a list that has all its items. -/
def endList (s : List Char) : Except Fault (List Char) :=
  match dropBlanks s with
  | [] => .error (.here .endInList [])
  | c :: r =>
    if c = ']' then .ok r
    else if c = ',' then
      match dropBlanks r with
      | [] => .error (.here .trailingCharacters [])
      | d :: t =>
        .error (.next (if d = ']' then .trailingComma else .trailingCharacters) (d :: t))
    else .error (.next .trailingCharacters (c :: r))

/-- Reads the items of a list into the members of a record, one after the other, up to the closing
bracket. -/
def readItems (a : α) (first : Bool) : List (Member α) → Reader α
  | [], s =>
    match endList s with
    | .error e => .error e
    | .ok r => .ok (a, r)
  | m :: ms, s =>
    match nextItem first s with
    | .error e => .error e
    | .ok none =>
      match endList s with
      | .error e => .error e
      | .ok r => .ok (a, r)
    | .ok (some r) =>
      match m.read r with
      | .error e => .error e
      | .ok (f, r) => readItems (f a) false ms r

/-! ## Objects -/

/-- Reads a key from its opening quote on. -/
def readKey : Reader String
  | '"' :: r =>
    match readText r with
    | .error e => .error e
    | .ok (t, r) => .ok (String.ofList t, r)
  | s => .error (.next .keyMustBeText s)

theorem length_lt_of_readKey {s r : List Char} {k : String} (h : readKey s = .ok (k, r)) :
    r.length < s.length := by
  rw [readKey.eq_def] at h
  split at h
  · split at h
    · simp at h
    · rename_i ht
      have := length_lt_of_readText ht
      simp only [Except.ok.injEq, Prod.mk.injEq] at h
      rw [← h.2, List.length_cons]
      omega
  · simp at h

/-- Reads the next key of an object, or the closing brace, and then there is no key.  A key that is
not the first follows a comma. -/
def nextKey (first : Bool) : Reader (Option String) := fun s =>
  match dropBlanks s with
  | [] => .error (.here .endInObject [])
  | c :: r =>
    if c = '}' then .ok (none, r)
    else if first then (readKey (c :: r)).map fun (k, r) => (some k, r)
    else if c = ',' then
      match dropBlanks r with
      | [] => .error (.here .endInValue [])
      | d :: t =>
        if d = '}' then .error (.next .trailingComma (d :: t))
        else (readKey (d :: t)).map fun (k, r) => (some k, r)
    else .error (.next .expectedObjectCommaOrEnd (c :: r))

theorem length_lt_of_nextKey {first : Bool} {s r : List Char} {k : Option String}
    (h : nextKey first s = .ok (k, r)) : r.length < s.length := by
  have hs := length_dropBlanks_le s
  have key : ∀ {t : List Char}, (readKey t).map (fun (k, r) => (some k, r)) = .ok (k, r) →
      r.length < t.length := by
    intro t ht
    match hk : readKey t with
    | .error e => simp [hk, Except.map] at ht
    | .ok (k', r') =>
      simp only [hk, Except.map, Except.ok.injEq, Prod.mk.injEq] at ht
      exact ht.2 ▸ length_lt_of_readKey hk
  rw [nextKey] at h
  split at h
  · simp at h
  · rename_i c t heq
    rw [heq] at hs
    split at h
    · simp only [Except.ok.injEq, Prod.mk.injEq] at h
      rw [← h.2]
      exact hs
    · split at h
      · exact Nat.lt_of_lt_of_le (key h) hs
      · split at h
        · have ht := length_dropBlanks_le t
          split at h
          · simp at h
          · rename_i d u hd
            split at h
            · simp at h
            · have := key h
              rw [hd] at ht
              rw [List.length_cons] at hs
              omega
        · simp at h

/-- The fault of a key that the object had before.  It is reported behind the blanks that follow
the key, and behind a brace that closes the object there. -/
def repeated (key : String) (s : List Char) : Fault :=
  match dropBlanks s with
  | '}' :: r => .here (.duplicateField key) r
  | r => .here (.duplicateField key) r

/-- The member of a record that has a key. -/
def Layout.member? (l : Layout α) (key : String) : Option (Member α) :=
  l.members.find? fun m => m.key == key

/-- Reads the value of a known member, or passes over the value of another one, in both cases from
behind the key. -/
def readMember (m : Option (Member α)) : Reader (α → α) := fun s =>
  match colon s with
  | .error e => .error e
  | .ok r =>
    match m with
    | some m => m.read r
    | none =>
      match skipValue r with
      | .error e => .error e
      | .ok r => .ok (id, r)

theorem length_lt_of_readMember {m : Option (Member α)} {s r : List Char} {f : α → α}
    (h : readMember m s = .ok (f, r)) : r.length < s.length := by
  rw [readMember] at h
  split at h
  · simp at h
  · rename_i t ht
    have hc := length_lt_of_colon ht
    split at h
    · rename_i known
      have := known.length_lt h
      omega
    · split at h
      · simp at h
      · rename_i hv
        have := length_lt_of_skipValue hv
        simp only [Except.ok.injEq, Prod.mk.injEq] at h
        rw [← h.2]
        omega

/-- Reads the members of an object into a record, up to the closing brace.  `seen` holds the keys
of the record that the object had so far. -/
def Layout.readMembers (l : Layout α) (seen : List String) (first : Bool) (a : α)
    (s : List Char) : Except Fault (α × List Char) :=
  match _hk : nextKey first s with
  | .error e => .error e
  | .ok (none, r) => .ok (a, r)
  | .ok (some key, r) =>
    if key ∈ seen then .error (repeated key r)
    else
      match _hm : readMember (l.member? key) r with
      | .error e => .error e
      | .ok (f, r) =>
        l.readMembers (if (l.member? key).isSome then key :: seen else seen) false (f a) r
termination_by s.length
decreasing_by
  have h₁ := length_lt_of_nextKey _hk
  have h₂ := length_lt_of_readMember _hm
  omega

/-- What the next member of an object does. -/
theorem Layout.readMembers_eq (l : Layout α) (seen : List String) (first : Bool) (a : α)
    (s : List Char) :
    l.readMembers seen first a s =
      match nextKey first s with
      | .error e => .error e
      | .ok (none, r) => .ok (a, r)
      | .ok (some key, r) =>
        if key ∈ seen then .error (repeated key r)
        else
          match readMember (l.member? key) r with
          | .error e => .error e
          | .ok (f, r) =>
            l.readMembers (if (l.member? key).isSome then key :: seen else seen) false (f a) r := by
  rw [readMembers.eq_def]
  split <;> rename_i h <;> rw [h]
  dsimp only
  split
  · rfl
  · split <;> rename_i h <;> rw [h]

/-! ## Documents -/

/-- Reads a record in either of its forms, and the blanks before it. -/
def Layout.read (l : Layout α) : Reader α := fun s =>
  match dropBlanks s with
  | [] => .error (.here .endInValue [])
  | c :: r =>
    if c = '[' then readItems l.initial true l.members r
    else if c = '{' then l.readMembers [] true l.initial r
    else .error (unexpected l.name (c :: r))

/-- Reads a whole text: only blanks may follow the value. -/
def readAll (read : Reader α) (s : List Char) : Except Fault α :=
  match read s with
  | .error e => .error e
  | .ok (a, r) =>
    match dropBlanks r with
    | [] => .ok a
    | r => .error (.next .trailingCharacters r)

/-- The record that a document holds, or what is wrong with the document and where. -/
def Layout.decode (l : Layout α) (document : String) : Except Error α :=
  (readAll l.read document.toList).mapError (Fault.locate document.toList)

/-! ## Writing -/

/-- A member in its written form: the key, a colon and the value. -/
def writtenMember (key : String) (value : List Char) : List Char :=
  writtenText key.toList ++ ':' :: value

/-- An object from its written members, without blanks. -/
def writtenObject (members : List (List Char)) : List Char :=
  '{' :: [','].intercalate members ++ ['}']

end Json
end Roster
