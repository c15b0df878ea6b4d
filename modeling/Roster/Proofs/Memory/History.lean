import Mathlib
import Roster.Proofs.Memory.Step

/-!
# The store in memory is its history

What a store holds can be read off the answers it gave: every insertion gave the account that was
kept, every removal the number of accounts that went.  This file keeps the list of these changes
and shows that the store is determined by it, at every point of every session.

* `Change` — an insertion or a removal, with what the store gave back for it.
* `changes` — the changes in a run.
* `survivors` — the accounts of a history that no later removal was meant for.
* `Reflects` — a store that is what its history says, and that no account was lost or doubled on
  the way to.  Every step keeps it (`Reflects.step`), and so does every run (`Reflects.run`).
* `history_determines_store` — what the store answers at a point of a session, from its history.
-/

set_option autoImplicit false

namespace Roster
namespace MemoryStore

/-! ## Histories -/

/-- A change to the accounts, with what was given back for it. -/
inductive Change
  /-- An account came in, and was kept like this. -/
  | inserted (kept : Account)
  /-- The accounts with an id were dropped; there were this many. -/
  | removed (id : String) (count : Nat)

namespace Change

/-- Whether a change brings in an account. -/
def isInsertion : Change → Bool
  | inserted _ => true
  | removed _ _ => false

/-- Whether a change brings in an account with an id. -/
def inserts (id : String) : Change → Bool
  | inserted kept => kept.id == id
  | removed _ _ => false

/-- Whether a change drops the accounts with an id. -/
def removes (id : String) : Change → Bool
  | inserted _ => false
  | removed id' _ => id' == id

/-- How many accounts went by a change. -/
def lost : Change → Nat
  | inserted _ => 0
  | removed _ count => count

/-- The change that a step made, going by the answer to it. -/
def of? : Step Command → Answer Outcome → Option Change
  | .command (.insert _ _), .outcome (.inserted kept) => some (inserted kept)
  | .command (.remove id), .outcome (.removed count) => some (removed id count)
  | _, _ => none

@[simp] theorem removes_inserted (id : String) (kept : Account) :
    (inserted kept).removes id = false := rfl

@[simp] theorem removes_removed (id id' : String) (count : Nat) :
    (removed id' count).removes id = (id' == id) := rfl

@[simp] theorem inserts_inserted (id : String) (kept : Account) :
    (inserted kept).inserts id = (kept.id == id) := rfl

@[simp] theorem inserts_removed (id id' : String) (count : Nat) :
    (removed id' count).inserts id = false := rfl

end Change

/-- The changes in a run, going by the answers. -/
def changes (steps : List (Step Command)) (answers : List (Answer Outcome × List Event)) :
    List Change :=
  (steps.zip answers).filterMap fun (step, answer, _) => Change.of? step answer

/-- The accounts that came in and whose id no later change removed, in the order in which they came
in. -/
def survivors : List Change → List Account
  | [] => []
  | .inserted kept :: later =>
    if later.any (·.removes kept.id) then survivors later else kept :: survivors later
  | .removed _ _ :: later => survivors later

/-- How many accounts with an id came in since the id was last removed. -/
def insertedSinceRemoval (id : String) (history : List Change) : Nat :=
  (history.reverse.takeWhile (!·.removes id)).countP (·.inserts id)

theorem changes_cons (step : Step Command) (steps : List (Step Command)) (answer : Answer Outcome)
    (events : List Event) (answers : List (Answer Outcome × List Event)) :
    changes (step :: steps) ((answer, events) :: answers) =
      (Change.of? step answer).toList ++ changes steps answers := by
  cases h : Change.of? step answer <;> simp [changes, h]

/-! ## One more change -/

theorem survivors_append_inserted (history : List Change) (kept : Account) :
    survivors (history ++ [.inserted kept]) = survivors history ++ [kept] := by
  induction history with
  | nil => rfl
  | cons change later ih =>
    cases change with
    | inserted a =>
      simp only [List.cons_append, survivors, ih, List.any_append, List.any_cons, List.any_nil,
        Change.removes_inserted, Bool.or_false]
      split <;> rfl
    | removed id count => rw [List.cons_append, survivors, survivors, ih]

theorem survivors_append_removed (history : List Change) (id : String) (count : Nat) :
    survivors (history ++ [.removed id count]) = (survivors history).filter (·.id != id) := by
  induction history with
  | nil => rfl
  | cons change later ih =>
    cases change with
    | inserted a =>
      simp only [List.cons_append, survivors, ih, List.any_append, List.any_cons, List.any_nil,
        Change.removes_removed, Bool.or_false]
      by_cases hid : a.id = id
      · -- the new removal drops the account, whether or not it was dropped before
        have hid' : (id == a.id) = true := by simp [hid]
        rw [hid', Bool.or_true, if_pos rfl]
        split
        · rfl
        · rw [List.filter_cons_of_neg (by simp [hid])]
      · have hid' : (id == a.id) = false := by simpa using Ne.symm hid
        rw [hid', Bool.or_false]
        split
        · rfl
        · rw [List.filter_cons_of_pos (by simpa using hid)]
    | removed id' count' => rw [List.cons_append, survivors, survivors, ih]

theorem insertedSinceRemoval_append_inserted (history : List Change) (kept : Account)
    (id : String) :
    insertedSinceRemoval id (history ++ [.inserted kept]) =
      insertedSinceRemoval id history + if kept.id = id then 1 else 0 := by
  simp [insertedSinceRemoval, List.countP_cons]

theorem insertedSinceRemoval_append_removed (history : List Change) (id id' : String)
    (count : Nat) :
    insertedSinceRemoval id (history ++ [.removed id' count]) =
      if id' = id then 0 else insertedSinceRemoval id history := by
  by_cases h : id' = id <;> simp [insertedSinceRemoval, List.takeWhile_cons, h]

-- an id that is back after its removal stands behind those that stayed
example : survivors [.inserted ⟨"7", "Zezima", none⟩, .inserted ⟨"8", "", none⟩,
    .removed "7" 1, .inserted ⟨"7", "Zezima", none⟩] =
      [⟨"8", "", none⟩, ⟨"7", "Zezima", none⟩] := by
  decide

/-- The survivors with an id are those that came in since its last removal. -/
theorem count_survivors (id : String) (history : List Change) :
    (⟨survivors history⟩ : MemoryStore).count id = insertedSinceRemoval id history := by
  induction history using List.reverseRecOn with
  | nil => rfl
  | append_singleton history change ih =>
    cases change with
    | inserted kept =>
      rw [survivors_append_inserted, insertedSinceRemoval_append_inserted, ← ih]
      exact count_append ⟨survivors history⟩ kept id
    | removed id' count =>
      rw [survivors_append_removed, insertedSinceRemoval_append_removed, ← ih]
      exact count_filter ⟨survivors history⟩ id' id

/-! ## Stores that reflect a history -/

/-- A store is what a history says, and the insertions of the history are accounted for: each
account that came in is still there or was counted when it went. -/
structure Reflects (history : List Change) (s : MemoryStore) : Prop where
  /-- The store holds the survivors, in their order. -/
  accounts : s.accounts = survivors history
  /-- Nothing was lost without being counted. -/
  balance : history.countP Change.isInsertion = s.size + (history.map Change.lost).sum

theorem Reflects.eq {history : List Change} {s : MemoryStore} (h : Reflects history s) :
    s = ⟨survivors history⟩ := by
  rw [← h.accounts]

theorem Reflects.empty : Reflects [] MemoryStore.empty := ⟨rfl, rfl⟩

theorem Reflects.inserted {history : List Change} {s : MemoryStore} (h : Reflects history s)
    (kept : Account) : Reflects (history ++ [.inserted kept]) ⟨s.accounts ++ [kept]⟩ := by
  refine ⟨by rw [survivors_append_inserted, h.accounts], ?_⟩
  have hb := h.balance
  have hsize : size ⟨s.accounts ++ [kept]⟩ = s.size + 1 := List.length_append
  have hcount : (history ++ [Change.inserted kept]).countP Change.isInsertion =
      history.countP Change.isInsertion + 1 := List.countP_append
  have hlost : ((history ++ [Change.inserted kept]).map Change.lost).sum =
      (history.map Change.lost).sum := by
    rw [List.map_append, List.sum_append]
    rfl
  omega

theorem Reflects.removed {history : List Change} {s : MemoryStore} (h : Reflects history s)
    (id : String) :
    Reflects (history ++ [.removed id (s.count id)]) ⟨s.accounts.filter (·.id != id)⟩ := by
  refine ⟨by rw [survivors_append_removed, h.accounts], ?_⟩
  have hb := h.balance
  -- what the removal takes from the size is what it adds to the losses
  have hsize : s.count id + size ⟨s.accounts.filter (·.id != id)⟩ = s.size :=
    s.count_add_length_filter id
  have hcount : (history ++ [Change.removed id (s.count id)]).countP Change.isInsertion =
      history.countP Change.isInsertion := List.countP_append
  have hlost : ((history ++ [Change.removed id (s.count id)]).map Change.lost).sum =
      (history.map Change.lost).sum + s.count id := by
    rw [List.map_append, List.sum_append]
    rfl
  omega

/-- A store that was filled reflects the insertions it was filled by. -/
theorem Reflects.insertAll {history : List Change} {t : Journaled MemoryStore}
    (h : Reflects history t.state) (accounts : List (Account × Instant)) :
    let filled := (insertAll accounts).run t
    Reflects (history ++ filled.1.map Change.inserted) filled.2.state := by
  rw [run_insertAll]
  induction accounts generalizing history t with
  | nil => simpa using h
  | cons first rest ih =>
    have hfirst := h.inserted (first.1.stamped first.2)
    simpa using ih (t := ⟨⟨t.state.accounts ++ [first.1.stamped first.2]⟩, t.trace⟩) hfirst

section Steps

variable (holding : Holding) (config : RuleConfig)

/-- **Every step keeps a store true to its history**, when the change that the answer tells of is
added to the history. -/
theorem Reflects.step {history : List Change} {t : Journaled MemoryStore}
    (h : Reflects history t.state) (step : Step Command) :
    let taken := ((session holding config).step step).run t
    Reflects (history ++ (Change.of? step taken.1).toList) taken.2.state := by
  cases step with
  | ask q => rw [run_ask]; simpa [Change.of?] using h
  | count id => simpa [Change.of?, run_count] using h
  | config => simpa [Change.of?, run_config] using h
  | command c =>
    cases c with
    | insert a now => rw [run_command_insert]; exact h.inserted _
    | remove id => rw [run_command_remove]; exact h.removed id
    | list => simpa [Change.of?, run_command_list] using h
    | size => simpa [Change.of?, run_command_size] using h

/-- **So does every run.** -/
theorem Reflects.run {history : List Change} {s : MemoryStore} (h : Reflects history s)
    (steps : List (Step Command)) :
    let ran := (session holding config).run steps s
    Reflects (history ++ changes steps ran.1) ran.2 := by
  induction steps generalizing history s with
  | nil => simpa [changes, Session.run_nil] using h
  | cons first rest ih =>
    have hfirst := Reflects.step holding config (t := Traced.ofState s) h first
    simpa only [Session.run_cons, changes_cons, List.append_assoc] using ih hfirst

end Steps

/-- The sizes of the groups of accounts with one id add up to the number of accounts. -/
theorem sum_count_dedup (s : MemoryStore) :
    ((s.accounts.map Account.id).dedup.map s.count).sum = s.size := by
  rw [funext s.count_eq, List.sum_map_count_dedup_eq_length, List.length_map, size]

/-! ## What a store answers -/

/-- **The history determines the store.**  Fill a store with any accounts, take any steps on it, and
write down its history from the answers.  At the point that is reached

* the accounts that are listed are the survivors of the history;
* the count for an id is the number of survivors with it, which is how many came in since the id
  was last removed;
* the number of accounts is that of the survivors and the sum of the counts for the different ids,
  and the store is empty exactly when it is zero;
* a removal gives the count for its id, which is how much shorter it makes the list, and leaves all
  other accounts in place;
* an insertion puts the account that it gives back behind all others: the account it was given,
  with the moment of the insertion where it had none;
* a question to the rules leaves the accounts as they are;
* the insertions so far are the accounts that are there and those that were counted when they
  went. -/
theorem history_determines_store (initial : List (Account × Instant)) (holding : Holding)
    (config : RuleConfig) (steps : List (Step Command)) :
    let session := session holding config
    let filled := (insertAll initial).run (Traced.ofState empty)
    let start := filled.2.state
    let history := filled.1.map Change.inserted ++ changes steps (session.run steps start).1
    let listed := survivors history
    let count := fun id => listed.countP (·.id == id)
    let takes := session.Takes start steps
    filled.1 = initial.map (fun (a, now) => { a with createdAt := some (a.createdAt.getD now) }) ∧
      takes (.command .list) (.outcome (.accounts listed)) [] ⟨listed⟩ ∧
      (∀ id, takes (.count id) (.count (.ok (count id))) [] ⟨listed⟩ ∧
        count id = insertedSinceRemoval id history) ∧
      takes (.command .size) (.outcome (.size listed.length (listed.length = 0))) [] ⟨listed⟩ ∧
      ((listed.map Account.id).dedup.map count).sum = listed.length ∧
      (∀ id, takes (.command (.remove id)) (.outcome (.removed (count id))) []
          ⟨listed.filter (·.id != id)⟩ ∧
        count id + (listed.filter (·.id != id)).length = listed.length) ∧
      (∀ a now, ∃ kept, takes (.command (.insert a now)) (.outcome (.inserted kept))
          [.stored a.id] ⟨listed ++ [kept]⟩ ∧
        kept = { a with createdAt := some (a.createdAt.getD now) }) ∧
      (∀ q, ∃ reply events, takes (.ask q) (.reply reply) events ⟨listed⟩) ∧
      history.countP Change.isInsertion = listed.length + (history.map Change.lost).sum := by
  intro session filled start history listed count takes
  have hstart : Reflects (filled.1.map Change.inserted) start :=
    Reflects.empty.insertAll (t := Traced.ofState empty) initial
  have h : Reflects history (session.run steps start).2 := hstart.run holding config steps
  have hs : (session.run steps start).2 = ⟨listed⟩ := h.eq
  have hb := h.balance
  rw [hs] at hb
  refine ⟨?_, session.takes_of_step hs rfl, fun id => ?_, ?_, ?_, fun id => ?_, fun a now => ?_,
    fun q => ?_, hb⟩
  · simp only [filled, run_insertAll]
    rfl
  · exact ⟨session.takes_of_step hs rfl, count_survivors id history⟩
  · refine session.takes_of_step hs ?_
    rw [run_command_size, isEmpty_eq]
    rfl
  · exact sum_count_dedup ⟨listed⟩
  · exact ⟨session.takes_of_step hs (run_command_remove holding config _ id),
      count_add_length_filter ⟨listed⟩ id⟩
  · exact ⟨a.stamped now, session.takes_of_step hs (run_command_insert holding config _ a now),
      rfl⟩
  · exact ⟨_, _, session.takes_of_step hs (run_ask holding config _ q)⟩

end MemoryStore
end Roster
