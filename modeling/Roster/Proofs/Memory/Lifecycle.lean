import Roster.Proofs.Memory.Step

/-!
# The life of an account

An account that passed as a new one and was stored is the only one with its id until the id is
removed, whatever is done with other ids in between.  Afterwards the store is what it would be if
the account had never come in.

* `MemoryStore.Concerns` — the steps that bring in or drop accounts with an id.
* `MemoryStore.without` — the store without the accounts of an id.  All other steps leave the count
  of the id as it is (`count_foldl`), and it makes no difference whether they are taken before the
  accounts are left out or after it (`without_foldl`).
* `life_of_account` — what the rules say about the account before, during and after its life.
-/

set_option autoImplicit false

namespace Roster
namespace MemoryStore

/-- Whether a step brings in or drops accounts with an id. -/
def Concerns (id : String) : Step Command → Prop
  | .command (.insert a _) => a.id = id
  | .command (.remove id') => id' = id
  | .command .list | .command .size | .ask _ | .count _ | .config => False

/-- The store without the accounts of an id. -/
def without (s : MemoryStore) (id : String) : MemoryStore := ⟨s.accounts.filter (·.id != id)⟩

/-! ## Leaving out the accounts of an id -/

theorem count_without_self (s : MemoryStore) (id : String) : (s.without id).count id = 0 := by
  rw [without, count_filter, if_pos rfl]

/-- Where no account has the id, nothing is left out. -/
theorem without_eq_self {s : MemoryStore} {id : String} (h : s.count id = 0) :
    s.without id = s := by
  have hother : ∀ a ∈ s.accounts, (a.id != id) = true := fun a ha =>
    bne_iff_ne.mpr (count_eq_zero_iff.mp h a ha)
  rw [without, List.filter_eq_self.mpr hother]

/-- An account of the id makes no difference where these are left out. -/
theorem without_append (s : MemoryStore) (a : Account) :
    (⟨s.accounts ++ [a]⟩ : MemoryStore).without a.id = s.without a.id := by
  have hself : [a].filter (·.id != a.id) = [] := by simp
  rw [without, without, List.filter_append, hself, List.append_nil]

section Steps

variable {id : String} {step : Step Command} {steps : List (Step Command)}

/-- A step that does not concern an id leaves its count as it is. -/
theorem count_after (h : ¬ Concerns id step) (s : MemoryStore) :
    (s.after step).count id = s.count id := by
  cases step with
  | ask q => rfl
  | count id' => rfl
  | config => rfl
  | command c =>
    cases c with
    | insert a now =>
      have hid : (a.stamped now).id ≠ id := h
      rw [after, count_append, if_neg hid, Nat.add_zero]
    | remove id' =>
      have hid : id' ≠ id := h
      rw [after, count_filter, if_neg hid]
    | list => rfl
    | size => rfl

/-- A step that does not concern an id does the same with and without its accounts. -/
theorem without_after (h : ¬ Concerns id step) (s : MemoryStore) :
    (s.after step).without id = (s.without id).after step := by
  cases step with
  | ask q => rfl
  | count id' => rfl
  | config => rfl
  | command c =>
    cases c with
    | insert a now =>
      have hkept : [a.stamped now].filter (·.id != id) = [a.stamped now] :=
        List.filter_cons_of_pos (bne_iff_ne.mpr h)
      rw [after, after, without, without, List.filter_append, hkept]
    | remove id' =>
      rw [after, after, without, without, List.filter_filter, List.filter_filter]
      exact congrArg _ (List.filter_congr fun a _ => Bool.and_comm _ _)
    | list => rfl
    | size => rfl

theorem count_foldl (h : ∀ step ∈ steps, ¬ Concerns id step) (s : MemoryStore) :
    (steps.foldl after s).count id = s.count id := by
  induction steps generalizing s with
  | nil => rfl
  | cons first rest ih =>
    obtain ⟨hfirst, hrest⟩ := List.forall_mem_cons.mp h
    rw [List.foldl_cons, ih hrest, count_after hfirst]

theorem without_foldl (h : ∀ step ∈ steps, ¬ Concerns id step) (s : MemoryStore) :
    (steps.foldl after s).without id = steps.foldl after (s.without id) := by
  induction steps generalizing s with
  | nil => rfl
  | cons first rest ih =>
    obtain ⟨hfirst, hrest⟩ := List.forall_mem_cons.mp h
    rw [List.foldl_cons, List.foldl_cons, ih hrest, without_after hfirst]

/-- **A life leaves no trace.**  Where no account had the id, storing one and removing the id later
comes to the same as the steps in between alone. -/
theorem without_foldl_append (h : ∀ step ∈ steps, ¬ Concerns id step) {s : MemoryStore}
    (hfree : s.count id = 0) {a : Account} (ha : a.id = id) :
    (steps.foldl after ⟨s.accounts ++ [a]⟩).without id = steps.foldl after s := by
  subst ha
  rw [without_foldl h, without_append, without_eq_self hfree]

end Steps

/-! ## Judging the account -/

/-- What the rules say about an account after some steps of a session, as a new one and as a stored
one.  Both validations count the accounts with its id, write that down and change nothing. -/
def Judged (session : Session MemoryStore Command Outcome) (start : MemoryStore)
    (steps : List (Step Command)) (a : Account) (count : Nat) (new stored : ValidationResult) :
    Prop :=
  let reached := (session.run steps start).2
  session.Takes start steps (.ask (.validateNew a)) (.reply (.validation new))
      [.counted count a.id] reached ∧
    session.Takes start steps (.ask (.validateExisting a)) (.reply (.validation stored))
      [.counted count a.id] reached

section Judging

variable {config : RuleConfig} {start : MemoryStore} {steps : List (Step Command)} {a : Account}
  (holding : Holding)

/-- Where the id is there, both validations come down to what speaks against the account. -/
theorem judged (hid : a.id ≠ "") {s : MemoryStore}
    (hs : ((session holding config).run steps start).2 = s) :
    Judged (session holding config) start steps a (s.count a.id)
      (.ofComplaints (s.complaints config (.validateNew a)))
      (.ofComplaints (s.complaints config (.validateExisting a))) := by
  subst hs
  have hnew (s : MemoryStore) : s.entries (.validateNew a) = [.counted (s.count a.id) a.id] := by
    simp [entries, Question.query?, hid]
  have hstored (s : MemoryStore) :
      s.entries (.validateExisting a) = [.counted (s.count a.id) a.id] := by
    simp [entries, Question.query?, hid]
  refine ⟨Session.takes_of_step _ rfl ?_, Session.takes_of_step _ rfl ?_⟩
  · rw [run_ask, hnew]
    rfl
  · rw [run_ask, hstored]
    rfl

variable (hid : a.id ≠ "") (hlen : a.id.utf8ByteSize = config.idLength)
include hid hlen

/-- What the rules say of an account whose id fits, by the number of accounts that hold the id. -/
theorem judged_of_fits {held : Nat}
    (h : ((session holding config).run steps start).2.count a.id = held) :
    Judged (session holding config) start steps a held
      (if held = 0 then .ok () else .error [.alreadyExists held])
      (if held = 1 then .ok () else .error [.notUnique held]) := by
  subst h
  have hj : Judged (session holding config) start steps a _ _ _ := judged holding hid rfl
  rwa [complaints_validateNew_of_fits hid hlen, complaints_validateExisting_of_fits hid hlen,
    ofComplaints_ite, ofComplaints_ite] at hj

/-- An account whose id is free can be created and does not pass as stored. -/
theorem judged_of_free (h : ((session holding config).run steps start).2.count a.id = 0) :
    Judged (session holding config) start steps a 0 (.ok ()) (.error [.notUnique 0]) :=
  judged_of_fits holding hid hlen h

/-- An account that is the only one with its id passes as stored and cannot be created. -/
theorem judged_of_held_once (h : ((session holding config).run steps start).2.count a.id = 1) :
    Judged (session holding config) start steps a 1 (.error [.alreadyExists 1]) (.ok ()) :=
  judged_of_fits holding hid hlen h

end Judging

/-- **The life of an account.**  Take any session on a store that was filled with any accounts, and
an account that passes as a new one after the steps so far.  Then it does not pass as a stored one,
because no account has its id.  Store it, and take any further steps that neither store nor remove
accounts with its id.  Then

* it passes as a stored one, and does not pass as a new one because one account has its id;
* removing its id drops one account;
* after that the rules say the same as before it was stored, and the accounts that are listed are
  those that the same steps without its insertion and its removal would have left. -/
theorem life_of_account (initial : List (Account × Instant)) (holding : Holding)
    (config : RuleConfig) (earlier meanwhile : List (Step Command)) (a : Account) (now : Instant)
    (hnew : (((session holding config).rules.ruleSet.validateNew a).run
      (Traced.ofState ((session holding config).run earlier (filled initial)).2)).1 = .ok ())
    (hmeanwhile : ∀ step ∈ meanwhile, ¬ Concerns a.id step) :
    let session := session holding config
    let start := filled initial
    let stored := earlier ++ .command (.insert a now) :: meanwhile
    let removed := stored ++ [.command (.remove a.id)]
    Judged session start earlier a 0 (.ok ()) (.error [.notUnique 0]) ∧
      Judged session start stored a 1 (.error [.alreadyExists 1]) (.ok ()) ∧
      session.Takes start stored (.command (.remove a.id)) (.outcome (.removed 1)) []
        (session.run removed start).2 ∧
      Judged session start removed a 0 (.ok ()) (.error [.notUnique 0]) ∧
      ∃ listed, session.Takes start removed (.command .list) (.outcome (.accounts listed)) []
          ⟨listed⟩ ∧
        session.Takes start (earlier ++ meanwhile) (.command .list) (.outcome (.accounts listed)) []
          ⟨listed⟩ := by
  intro session start stored removed
  rw [run_validateNew] at hnew
  obtain ⟨hid, hlen, hfree⟩ :=
    complaints_validateNew_eq_nil_iff.mp (ofComplaints_eq_ok_iff.mp hnew)
  have hearlier : (session.run earlier start).2.count a.id = 0 := hfree
  -- the states after the insertion, after the removal, and without either of them
  have hstored : (session.run stored start).2 =
      meanwhile.foldl after ⟨(session.run earlier start).2.accounts ++ [a.stamped now]⟩ := by
    rw [state_run, state_run, List.foldl_append, List.foldl_cons]
    rfl
  have hremoved : (session.run removed start).2 = (session.run stored start).2.without a.id := by
    rw [state_run, state_run, List.foldl_append]
    rfl
  have hunborn : (session.run (earlier ++ meanwhile) start).2 =
      meanwhile.foldl after (session.run earlier start).2 := by
    rw [state_run, state_run, List.foldl_append]
  have hone : (session.run stored start).2.count a.id = 1 := by
    rw [hstored, count_foldl hmeanwhile, count_append, hearlier, Account.id_stamped, if_pos rfl]
  have hzero : (session.run removed start).2.count a.id = 0 := by
    rw [hremoved, count_without_self]
  have hsame : (session.run removed start).2 = (session.run (earlier ++ meanwhile) start).2 := by
    rw [hremoved, hstored, hunborn,
      without_foldl_append hmeanwhile hearlier (Account.id_stamped a now)]
  refine ⟨judged_of_free holding hid hlen hearlier, judged_of_held_once holding hid hlen hone,
    session.takes_of_step rfl ?_, judged_of_free holding hid hlen hzero,
    (session.run removed start).2.accounts, session.takes_of_step rfl rfl,
    session.takes_of_step hsame.symm rfl⟩
  rw [run_command_remove, hremoved]
  exact congrArg (fun count => (Answer.outcome (Outcome.removed count), _)) hone

/-- An account between others whose id is stored twice, and removed and stored again meanwhile. -/
theorem life_amid_duplicates :
    let noon : Instant :=
      ⟨⟨2026, 6, 1, by decide⟩, 720, 0, 0, by decide, by decide, by decide⟩
    let initial := [(⟨"bb", "first", none⟩, noon), (⟨"bb", "second", none⟩, noon)]
    let a : Account := ⟨"aa", "Zezima", none⟩
    let meanwhile : List (Step Command) := [.command (.insert ⟨"c", "", none⟩ noon),
      .ask (.validateNew a), .command (.remove "bb"), .command (.insert ⟨"bb", "", none⟩ noon)]
    let session := session .direct ⟨2⟩
    let removed : List (Step Command) :=
      .command (.insert a noon) :: meanwhile ++ [.command (.remove "aa")]
    ((session.rules.ruleSet.validateNew a).run (Traced.ofState (filled initial))).1 = .ok () ∧
      (∀ step ∈ meanwhile, ¬ Concerns "aa" step) ∧
      ∃ listed, session.Takes (filled initial) removed (.command .list)
          (.outcome (.accounts listed)) [] ⟨listed⟩ ∧
        session.Takes (filled initial) meanwhile (.command .list)
          (.outcome (.accounts listed)) [] ⟨listed⟩ := by
  intro noon initial a meanwhile session removed
  have hnew : ((session.rules.ruleSet.validateNew a).run
      (Traced.ofState (filled initial))).1 = .ok () := by
    rfl
  have hmeanwhile : ∀ step ∈ meanwhile, ¬ Concerns "aa" step := by
    simp [meanwhile, Concerns, a]
  exact ⟨hnew, hmeanwhile,
    (life_of_account initial .direct ⟨2⟩ [] meanwhile a noon hnew hmeanwhile).2.2.2.2⟩

end MemoryStore
end Roster
