import Mathlib.Data.List.Forall2
import Roster.Error
import Roster.Proofs.Rules.Consultation
import Roster.Store.Scripted

/-!
# Store failures on their way to the caller

A store that cannot answer says why, in a message and in the messages of the causes below it.
Between the store and whoever put a question to the rules stand the ways of holding the store, the
rule that asked it, the validation that collects objections, and the conversion into the one type
of errors.  Each of them could put the failure into words of its own, or itself among the causes,
which only shows when the causes are walked down one by one.

* `Reply.errors` — the errors in a reply, and `Reply.storeFailures`, those that blame the store.
* `RuleError.PassesOn` — an error shows a failure as the store reported it, converted or not.
* `Question.storeFailures_expected` — a reply blames the store once if its own query failed, and
  otherwise not at all.
* `Question.storeFailures_deal` — so do the replies to a sequence of questions, in the order of the
  queries.
* `failures_reach_callers` — every way from the store to the caller.
-/

set_option autoImplicit false

namespace Roster

/-! ## Errors in replies -/

/-- The errors in a reply, in order. -/
def Reply.errors : Reply → List RuleError
  | .rule (.ok ()) => []
  | .rule (.error e) => [e]
  | .validation (.ok ()) => []
  | .validation (.error es) => es

/-- The errors in a reply that blame the store and not the account. -/
def Reply.storeFailures (r : Reply) : List RuleError :=
  r.errors.filter RuleError.isRepositoryFailure

/-- The failure that a store answered with, if it did. -/
def CountAnswer.failure? : CountAnswer → Option StoreFailure
  | .ok _ => none
  | .error failure => some failure

/-- An error passes a failure on: it says what the store said and gives the causes that the store
gave, no more and no less, and still does when it is converted. -/
structure RuleError.PassesOn (e : RuleError) (failure : StoreFailure) : Prop where
  message : e.message = failure.message
  causes : e.causes = failure.causes
  message_converted : (Error.rule e).message = failure.message
  causes_converted : (Error.rule e).causes = failure.causes

/-- A rule that could not ask the store passes the failure on.  Neither wrapping takes a step of its
own on the way down, so both walks are that of the store's failure. -/
theorem RuleError.PassesOn.repository (failure : StoreFailure) :
    (RuleError.repository failure).PassesOn failure where
  message := rfl
  causes := failure.chain_source?
  message_converted := rfl
  causes_converted := failure.chain_source?

theorem Reply.errors_rule (r : RuleResult) : (Reply.rule r).errors = objections [r] := by
  cases r <;> rfl

theorem Reply.errors_validation (es : List RuleError) :
    (Reply.validation (.ofComplaints es)).errors = es := by
  cases es <;> rfl

/-! ## One reply -/

/-- Everything that speaks against an account is in the reply, and nothing else. -/
theorem Question.errors_expected (config : RuleConfig) (q : Question)
    (answer : Option CountAnswer) :
    (q.expected config answer).errors = q.complaints config answer := by
  cases q with
  | rule name a =>
    -- a rule has one result, so its report leaves none of its objections out
    have hrule (r : RuleResult) :
        ((rule name a).report (objections [r])).errors = objections [r] := by
      rw [report_rule, Reply.errors_rule]
    rw [expected]
    cases name with
    | present =>
      rw [complaints, ← StandardRules.objections_present]
      exact hrule _
    | length =>
      rw [complaints, RuleConfig.misfits]
      split <;> rfl
    | unique =>
      cases answer with
      | none => rfl
      | some r =>
        rw [complaints, Option.elim_some, ← StandardRules.objections_unique]
        exact hrule _
    | willBeUnique =>
      cases answer with
      | none => rfl
      | some r =>
        rw [complaints, Option.elim_some, ← StandardRules.objections_unused]
        exact hrule _
  | validateNew a => exact Reply.errors_validation _
  | validateExisting a => exact Reply.errors_validation _

/-- A wrong length is the account's fault. -/
theorem RuleConfig.filter_misfits (c : RuleConfig) (a : Account) :
    (c.misfits a).filter RuleError.isRepositoryFailure = [] := by
  rw [misfits]
  split <;> rfl

theorem CountAnswer.filter_againstStored (r : CountAnswer) :
    r.againstStored.filter RuleError.isRepositoryFailure =
      r.failure?.toList.map RuleError.repository := by
  cases r with
  | error failure => rfl
  | ok n => rcases n with _ | _ | n <;> rfl

theorem CountAnswer.filter_againstNew (r : CountAnswer) :
    r.againstNew.filter RuleError.isRepositoryFailure =
      r.failure?.toList.map RuleError.repository := by
  cases r with
  | error failure => rfl
  | ok n => cases n <;> rfl

/-- **One reply.**  It blames the store once if the query behind the question failed, whatever else
is said against the account, and otherwise not at all. -/
theorem Question.storeFailures_expected (config : RuleConfig) (q : Question)
    (ask : String → CountAnswer) :
    (q.expected config (q.query?.map ask)).storeFailures =
      ((q.query?.map ask).bind CountAnswer.failure?).toList.map RuleError.repository := by
  rw [Reply.storeFailures, errors_expected]
  cases q with
  | rule name a =>
    cases name with
    | present =>
      rw [complaints]
      split <;> rfl
    | length => exact config.filter_misfits a
    | unique => exact (ask a.id).filter_againstStored
    | willBeUnique => exact (ask a.id).filter_againstNew
  | validateNew a =>
    rw [complaints, query?]
    split
    · rfl
    · rw [List.filter_append, config.filter_misfits, List.nil_append]
      exact (ask a.id).filter_againstNew
  | validateExisting a =>
    rw [complaints, query?]
    split
    · rfl
    · rw [List.filter_append, config.filter_misfits, List.nil_append]
      exact (ask a.id).filter_againstStored

/-! ## Many replies -/

/-- **A sequence of replies.**  The failures of the queries are in them once each, in the order of
the queries. -/
theorem Question.storeFailures_deal (config : RuleConfig) {qs : List Question}
    {answers : List CountAnswer} (hlen : answers.length = (qs.filterMap query?).length) :
    (List.zipWith (expected config) qs (deal qs answers)).flatMap Reply.storeFailures =
      (answers.filterMap CountAnswer.failure?).map RuleError.repository := by
  induction qs generalizing answers with
  | nil =>
    rw [List.length_eq_zero_iff.mp hlen]
    rfl
  | cons q qs ih =>
    cases hq : q.query? with
    | none =>
      rw [List.filterMap_cons_none hq] at hlen
      have hhead := storeFailures_expected config q fun _ => .ok 0
      rw [hq] at hhead
      rw [deal_cons_of_none hq, List.zipWith_cons_cons, List.flatMap_cons, ih hlen]
      exact congrArg (· ++ _) hhead
    | some id =>
      rw [List.filterMap_cons_some hq] at hlen
      obtain ⟨r, answers, rfl⟩ := List.exists_cons_of_length_eq_add_one hlen
      have hhead := storeFailures_expected config q fun _ => r
      rw [hq] at hhead
      rw [deal_cons_of_some hq, List.zipWith_cons_cons, List.flatMap_cons,
        ih (Nat.succ.inj hlen), List.filterMap_cons]
      refine (congrArg (· ++ _) hhead).trans ?_
      cases r <;> rfl

namespace StandardRules

variable {σ : Type} (rules : StandardRules σ)

/-- The reply to a question, from what the repository answers to its query. -/
theorem reply_eq_expected (q : Question) (t : Journaled σ) :
    ((rules.ruleSet.reply q).run t).1 = q.expected rules.config
      (q.query?.map fun id => ((rules.repository.countMatching id).run t.state).1) := by
  cases hq : q.query? with
  | none => rw [rules.run_reply_of_none hq, Option.map_none]
  | some id => rw [rules.run_reply_of_some hq, Option.map_some]

/-- The failures that the replies to a sequence of questions report are those that the repository
answered with. -/
theorem storeFailures_replies (qs : List Question) (t : Journaled σ) :
    ((qs.mapM rules.ruleSet.reply).run t).1.flatMap Reply.storeFailures =
      ((((qs.filterMap Question.query?).mapM rules.repository.countMatching).run
        t.state).1.filterMap CountAnswer.failure?).map RuleError.repository := by
  rw [rules.run_replies]
  exact Question.storeFailures_deal rules.config (length_run_mapM _ _ _)

end StandardRules

/-- **Store failures reach the caller as they are.**  Take the standard rules over any repository,
held in any way.

* In any state, the reply to a question whose query fails has exactly one error that blames the
  store, and this error passes the failure on; every other reply has none.  The questions with a
  query are the two rules for uniqueness and the validations of an account with an id, whether or
  not its length is objected to as well.
* The replies to a sequence of questions pass on exactly the failures of their queries, one after
  the other.
* The repository that is held answers what the repository itself answers, and a failure that is
  converted without any rule says what it said and gives the causes that it gave.
* An error names no field of the account exactly if it blames the store. -/
theorem failures_reach_callers {σ : Type} (repository : Repository σ) (holding : Holding)
    (config : RuleConfig) :
    let held := repository.through holding
    let rules : StandardRules σ := ⟨held, config⟩
    (∀ (q : Question) (t : Journaled σ),
      let reply := ((rules.ruleSet.reply q).run t).1
      match q.query?.map fun id => ((repository.countMatching id).run t.state).1 with
      | some (.error failure) => ∃ e, reply.storeFailures = [e] ∧ e.PassesOn failure
      | some (.ok _) | none => reply.storeFailures = []) ∧
      (∀ (qs : List Question) (t : Journaled σ),
        let replies := ((qs.mapM rules.ruleSet.reply).run t).1
        let ids := qs.filterMap Question.query?
        let answers := ((ids.mapM repository.countMatching).run t.state).1
        List.Forall₂ RuleError.PassesOn (replies.flatMap Reply.storeFailures)
          (answers.filterMap CountAnswer.failure?)) ∧
      (∀ (id : String) (s : σ),
        (held.countMatching id).run s = (repository.countMatching id).run s) ∧
      (∀ failure : StoreFailure, (Error.repository failure).message = failure.message ∧
        (Error.repository failure).causes = failure.causes) ∧
      ∀ e : RuleError, e.field = none ↔ e.isRepositoryFailure = true := by
  intro held rules
  have hheld : held = repository := repository.through_eq holding
  refine ⟨fun q t => ?_, fun qs t => ?_, fun id s => by rw [hheld],
    fun failure => ⟨rfl, failure.chain_source?⟩, RuleError.field_eq_none_iff⟩
  · intro reply
    have hreply : reply.storeFailures = _ :=
      (congrArg Reply.storeFailures (rules.reply_eq_expected q t)).trans
        (q.storeFailures_expected config _)
    rw [hreply, show rules.repository = repository from hheld]
    rcases q.query?.map fun id => ((repository.countMatching id).run t.state).1 with
      _ | failure | n
    · rfl
    · exact ⟨_, rfl, .repository failure⟩
    · rfl
  · intro replies ids answers
    have hreplies : replies.flatMap Reply.storeFailures =
        (answers.filterMap CountAnswer.failure?).map RuleError.repository := by
      have h := rules.storeFailures_replies qs t
      rwa [show rules.repository = repository from hheld] at h
    rw [hreplies, List.forall₂_map_left_iff, List.forall₂_same]
    exact fun failure _ => .repository failure

-- a validation that objects to the length as well, over a store that is shared and owned
example :
    let rules : StandardRules ScriptedStore :=
      ⟨ScriptedStore.repository.through (.shared (.owned .direct)), ⟨36⟩⟩
    let store := ScriptedStore.ofScript [.error ⟨"store unavailable", ["refused", "no route"]⟩]
    let replied := (rules.ruleSet.reply (.validateNew (Account.withId "é"))).run (.ofState store)
    replied.1.errors =
        [.incorrectLength 36 2, .repository ⟨"store unavailable", ["refused", "no route"]⟩] ∧
      replied.1.errors.map RuleError.causes = [[], ["refused", "no route"]] := by
  decide

end Roster
