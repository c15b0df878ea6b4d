import Roster.Proofs.Rules.Consultation
import Roster.Store.Memory

/-!
# Sessions on the store in memory, step by step

One equation for each step that a session on the store in memory can take.  Only insertions and
removals change the accounts; a question to the rules, a count and a look at the accounts leave
them as they are.

* `MemoryStore.session` — the session, for any hold on the store and any configuration.
* `MemoryStore.after` — what a step makes of the accounts (`MemoryStore.state_step`).
* `MemoryStore.run_reply` — the reply to a question, from the number of accounts with its id.
-/

set_option autoImplicit false

namespace Roster
namespace MemoryStore

/-! ## Counting and removing -/

theorem count_eq (s : MemoryStore) (id : String) :
    s.count id = (s.accounts.map Account.id).count id := by
  rw [count, List.count, List.countP_map]
  rfl

theorem count_pos_iff {s : MemoryStore} {id : String} :
    0 < s.count id ↔ ∃ a ∈ s.accounts, a.id = id := by
  simp [count, List.countP_pos_iff]

/-- An id is held by no account exactly if all accounts have others. -/
theorem count_eq_zero_iff {s : MemoryStore} {id : String} :
    s.count id = 0 ↔ ∀ b ∈ s.accounts, b.id ≠ id := by
  simp [count, List.countP_eq_zero]

theorem isEmpty_eq (s : MemoryStore) : s.isEmpty = decide (s.size = 0) := by
  rw [Bool.eq_iff_iff, isEmpty, List.isEmpty_iff, decide_eq_true_iff, size,
    List.length_eq_zero_iff]

/-- The accounts with an id and those without are all accounts. -/
theorem count_add_length_filter (s : MemoryStore) (id : String) :
    s.count id + (s.accounts.filter (·.id != id)).length = s.accounts.length := by
  rw [List.length_eq_countP_add_countP (·.id == id) (l := s.accounts), count,
    ← List.countP_eq_length_filter]
  exact congrArg _ (List.countP_congr fun a _ => by simp)

/-- An account more is one more for its id. -/
theorem count_append (s : MemoryStore) (a : Account) (id : String) :
    (⟨s.accounts ++ [a]⟩ : MemoryStore).count id = s.count id + if a.id = id then 1 else 0 := by
  rw [count, count, List.countP_append]
  simp [List.countP_cons]

/-- Without the accounts of an id, no account has this id, and as many as before have another. -/
theorem count_filter (s : MemoryStore) (id' id : String) :
    (⟨s.accounts.filter (·.id != id')⟩ : MemoryStore).count id =
      if id' = id then 0 else s.count id := by
  rw [count, count, List.countP_filter]
  split
  · next h => simp [h]
  · next h => exact List.countP_congr fun a _ => by grind

theorem run_insert (a : Account) (now : Instant) (t : Journaled MemoryStore) :
    (insert a now).run t =
      (a.stamped now, ⟨⟨t.state.accounts ++ [a.stamped now]⟩, t.trace ++ [.stored a.id]⟩) := rfl

/-- A removal gives the number of accounts that had the id, and leaves the others. -/
theorem run_remove (id : String) (s : MemoryStore) :
    (remove id).run s = (s.count id, ⟨s.accounts.filter (·.id != id)⟩) := by
  show (s.accounts.length - (s.accounts.filter (·.id != id)).length, _) = _
  rw [← s.count_add_length_filter id, Nat.add_sub_cancel]

/-- Filling a store stamps every account with its own moment and keeps the order. -/
theorem run_insertAll (accounts : List (Account × Instant)) (t : Journaled MemoryStore) :
    (insertAll accounts).run t =
      let kept := accounts.map fun (a, now) => a.stamped now
      (kept, ⟨⟨t.state.accounts ++ kept⟩, t.trace ++ accounts.map fun (a, _) => .stored a.id⟩) := by
  induction accounts generalizing t with
  | nil =>
    rw [insertAll, run_mapM_nil]
    simp
  | cons first rest ih =>
    rw [insertAll] at ih ⊢
    rw [run_mapM_cons, run_insert]
    simp only [ih]
    simp

/-- A store that was filled with accounts, each at its own moment. -/
def filled (initial : List (Account × Instant)) : MemoryStore :=
  ((insertAll initial).run (Traced.ofState empty)).2.state

/-! ## The session -/

/-- A session on the store in memory. -/
def session (holding : Holding) (config : RuleConfig) : Session MemoryStore Command Outcome :=
  ⟨repository, holding, config, perform⟩

/-- The answer of the store to the query of a question. -/
def answer? (s : MemoryStore) (q : Question) : Option CountAnswer :=
  q.query?.map fun id => .ok (s.count id)

/-- What a question leaves in the journal. -/
def entries (s : MemoryStore) (q : Question) : List Event :=
  (q.query?.map fun id => .counted (s.count id) id).toList

/-- What speaks against the account of a question, going by the accounts in a store. -/
def complaints (s : MemoryStore) (config : RuleConfig) (q : Question) : List RuleError :=
  q.complaints config (s.answer? q)

theorem complaints_validateNew (s : MemoryStore) (config : RuleConfig) (a : Account) :
    s.complaints config (.validateNew a) =
      if a.id = "" then [.missingId]
      else config.misfits a ++
        if s.count a.id = 0 then [] else [.alreadyExists (s.count a.id)] := by
  rw [complaints, Question.complaints]
  split
  · rfl
  · next h =>
    simp only [answer?, Question.query?, h, if_false, Option.map_some, Option.elim_some]
    congr 1
    cases s.count a.id <;> rfl

theorem complaints_validateExisting (s : MemoryStore) (config : RuleConfig) (a : Account) :
    s.complaints config (.validateExisting a) =
      if a.id = "" then [.missingId]
      else config.misfits a ++
        if s.count a.id = 1 then [] else [.notUnique (s.count a.id)] := by
  rw [complaints, Question.complaints]
  split
  · rfl
  · next h =>
    simp only [answer?, Question.query?, h, if_false, Option.map_some, Option.elim_some]
    congr 1
    rcases s.count a.id with _ | _ | n <;> simp [CountAnswer.againstStored]

/-- Nothing speaks against a new account exactly when its id is there, has the right length and is
not held. -/
theorem complaints_validateNew_eq_nil_iff {s : MemoryStore} {config : RuleConfig} {a : Account} :
    s.complaints config (.validateNew a) = [] ↔
      a.id ≠ "" ∧ a.id.utf8ByteSize = config.idLength ∧ s.count a.id = 0 := by
  rw [complaints_validateNew]
  split
  · simp_all
  · rw [List.append_eq_nil_iff, RuleConfig.misfits_eq_nil_iff]
    split <;> simp_all

/-- Nothing speaks against a stored account exactly when its id is there, has the right length and
is held once. -/
theorem complaints_validateExisting_eq_nil_iff {s : MemoryStore} {config : RuleConfig}
    {a : Account} :
    s.complaints config (.validateExisting a) = [] ↔
      a.id ≠ "" ∧ a.id.utf8ByteSize = config.idLength ∧ s.count a.id = 1 := by
  rw [complaints_validateExisting]
  split
  · simp_all
  · rw [List.append_eq_nil_iff, RuleConfig.misfits_eq_nil_iff]
    split <;> simp_all

/-- Where the id is there and has the right length, only its count can speak against a new
account. -/
theorem complaints_validateNew_of_fits {config : RuleConfig} {a : Account} (hid : a.id ≠ "")
    (hlen : a.id.utf8ByteSize = config.idLength) (s : MemoryStore) :
    s.complaints config (.validateNew a) =
      if s.count a.id = 0 then [] else [.alreadyExists (s.count a.id)] := by
  rw [complaints_validateNew, if_neg hid, RuleConfig.misfits_eq_nil_iff.mpr hlen, List.nil_append]

/-- Where the id is there and has the right length, only its count can speak against a stored
account. -/
theorem complaints_validateExisting_of_fits {config : RuleConfig} {a : Account} (hid : a.id ≠ "")
    (hlen : a.id.utf8ByteSize = config.idLength) (s : MemoryStore) :
    s.complaints config (.validateExisting a) =
      if s.count a.id = 1 then [] else [.notUnique (s.count a.id)] := by
  rw [complaints_validateExisting, if_neg hid, RuleConfig.misfits_eq_nil_iff.mpr hlen,
    List.nil_append]

theorem ofComplaints_eq_ok_iff {es : List RuleError} :
    ValidationResult.ofComplaints es = .ok () ↔ es = [] := by
  cases es <;> simp [ValidationResult.ofComplaints]

/-- One objection, if there is any. -/
theorem ofComplaints_ite (p : Prop) [Decidable p] (e : RuleError) :
    ValidationResult.ofComplaints (if p then [] else [e]) =
      if p then .ok () else .error [e] := by
  split <;> rfl

section Steps

variable (holding : Holding) (config : RuleConfig) (t : Journaled MemoryStore)

/-- A question is answered from the counts and leaves the accounts alone. -/
theorem run_reply (q : Question) :
    ((session holding config).rules.ruleSet.reply q).run t =
      (q.expected config (t.state.answer? q), ⟨t.state, t.trace ++ t.state.entries q⟩) := by
  rw [Session.rules, Repository.through_eq]
  cases h : q.query? with
  | none =>
    rw [StandardRules.run_reply_of_none _ h, answer?, entries, h]
    simp [session]
  | some id =>
    rw [StandardRules.run_reply_of_some _ h, answer?, entries, h]
    rfl

theorem run_validateNew (a : Account) :
    ((session holding config).rules.ruleSet.validateNew a).run t =
      (.ofComplaints (t.state.complaints config (.validateNew a)),
        ⟨t.state, t.trace ++ t.state.entries (.validateNew a)⟩) :=
  RuleSet.run_of_run_reply (run_reply holding config t (.validateNew a))

theorem run_validateExisting (a : Account) :
    ((session holding config).rules.ruleSet.validateExisting a).run t =
      (.ofComplaints (t.state.complaints config (.validateExisting a)),
        ⟨t.state, t.trace ++ t.state.entries (.validateExisting a)⟩) :=
  RuleSet.run_of_run_reply (run_reply holding config t (.validateExisting a))

theorem run_ask (q : Question) :
    ((session holding config).step (.ask q)).run t =
      (.reply (q.expected config (t.state.answer? q)),
        ⟨t.state, t.trace ++ t.state.entries q⟩) := by
  show (Answer.reply (((session holding config).rules.ruleSet.reply q).run t).1,
    (((session holding config).rules.ruleSet.reply q).run t).2) = _
  rw [run_reply]

theorem run_count (id : String) :
    ((session holding config).step (.count id)).run t = (.count (.ok (t.state.count id)), t) := rfl

theorem run_config : ((session holding config).step .config).run t = (.config config, t) := rfl

theorem run_command_insert (a : Account) (now : Instant) :
    ((session holding config).step (.command (.insert a now))).run t =
      (.outcome (.inserted (a.stamped now)),
        ⟨⟨t.state.accounts ++ [a.stamped now]⟩, t.trace ++ [.stored a.id]⟩) := rfl

theorem run_command_remove (id : String) :
    ((session holding config).step (.command (.remove id))).run t =
      (.outcome (.removed (t.state.count id)),
        ⟨⟨t.state.accounts.filter (·.id != id)⟩, t.trace⟩) := by
  show (Answer.outcome (Outcome.removed ((remove id).run t.state).1),
    (⟨((remove id).run t.state).2, t.trace⟩ : Journaled MemoryStore)) = _
  rw [run_remove]

theorem run_command_list :
    ((session holding config).step (.command .list)).run t =
      (.outcome (.accounts t.state.accounts), t) := rfl

theorem run_command_size :
    ((session holding config).step (.command .size)).run t =
      (.outcome (.size t.state.size t.state.isEmpty), t) := rfl

/-- What a step makes of the store. -/
def after (s : MemoryStore) : Step Command → MemoryStore
  | .command (.insert a now) => ⟨s.accounts ++ [a.stamped now]⟩
  | .command (.remove id) => ⟨s.accounts.filter (·.id != id)⟩
  | .command .list | .command .size | .ask _ | .count _ | .config => s

/-- **Only insertions and removals change the accounts.** -/
theorem state_step (st : Step Command) :
    (((session holding config).step st).run t).2.state = t.state.after st := by
  cases st with
  | ask q => rw [run_ask]; rfl
  | count id => rfl
  | config => rfl
  | command c =>
    cases c with
    | insert a now => rw [run_command_insert]; rfl
    | remove id => rw [run_command_remove]; rfl
    | list => rfl
    | size => rfl

/-- A run makes of the store what its steps make of it, one after the other. -/
theorem state_run (steps : List (Step Command)) (s : MemoryStore) :
    ((session holding config).run steps s).2 = steps.foldl after s := by
  induction steps generalizing s with
  | nil => rfl
  | cons first rest ih =>
    rw [Session.run_cons, List.foldl_cons]
    simp only [ih, state_step]
    rfl

end Steps

end MemoryStore
end Roster
