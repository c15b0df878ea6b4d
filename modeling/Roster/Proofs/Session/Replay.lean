import Roster.Proofs.Rules.Consultation
import Roster.Proofs.Session.Run

/-!
# Replaying a session over another store

What a session answers depends on its store only through the queries that the store gets and the
answers that it gives to them.  So a session can be recorded over one store and replayed over any
other that gives the same answers to the same queries, without the commands, which are for the first
store only.

* `Session.recorded` — a session whose store notes every query that reaches it, with its answer.
* `Session.queries` — these queries, step by step.  Taking notes changes nothing else
  (`Session.run_recorded`).
* `Step.replayed?` and `replayedAnswers` — the steps and the answers that are no commands.
* `Session.run_replayed` — the replay.
-/

set_option autoImplicit false

namespace Roster

/-- The id that a step makes a store count, if it does.  Commands are not among the queries. -/
def Step.query? {κ : Type} : Step κ → Option String
  | .ask q => q.query?
  | .count id => some id
  | .config | .command _ => none

/-- A step as a step of a session on another store.  There is no such step for a command. -/
def Step.replayed? {κ κ' : Type} : Step κ → Option (Step κ')
  | .ask q => some (.ask q)
  | .count id => some (.count id)
  | .config => some .config
  | .command _ => none

/-- An answer as an answer of a session on another store. -/
def Answer.replayed? {ρ ρ' : Type} : Answer ρ → Option (Answer ρ')
  | .reply r => some (.reply r)
  | .count answer => some (.count answer)
  | .config c => some (.config c)
  | .outcome _ => none

/-- The answers of the steps that are no commands, each with what was written down for it. -/
def replayedAnswers {ρ ρ' : Type} (answers : List (Answer ρ × List Event)) :
    List (Answer ρ' × List Event) :=
  answers.filterMap fun (answer, events) => answer.replayed?.map fun answer => (answer, events)

theorem filterMap_replayed_cons {κ κ' : Type} (first : Step κ) (rest : List (Step κ)) :
    ((first :: rest).filterMap Step.replayed? : List (Step κ')) =
      first.replayed?.toList ++ rest.filterMap Step.replayed? := by
  cases first <;> rfl

theorem replayedAnswers_cons {ρ ρ' : Type} (first : Answer ρ × List Event)
    (rest : List (Answer ρ × List Event)) :
    (replayedAnswers (first :: rest) : List (Answer ρ' × List Event)) =
      replayedAnswers [first] ++ replayedAnswers rest := by
  rw [← List.singleton_append, replayedAnswers, List.filterMap_append]
  rfl

namespace Session

variable {σ κ ρ : Type} (session : Session σ κ ρ)

/-! ## Single steps -/

theorem run_ask_of_none {q : Question} (h : q.query? = none) (t : Journaled σ) :
    (session.step (.ask q)).run t = (.reply (q.expected session.config none), t) := by
  have hreply := session.rules.run_reply_of_none h t
  show (Answer.reply ((session.rules.ruleSet.reply q).run t).1,
    ((session.rules.ruleSet.reply q).run t).2) = _
  rw [hreply]
  rfl

theorem run_ask_of_some {q : Question} {id : String} (h : q.query? = some id) (t : Journaled σ) :
    (session.step (.ask q)).run t =
      let asked := (session.repository.countMatching id).run t.state
      (.reply (q.expected session.config (some asked.1)),
        ⟨asked.2, t.trace ++ [Event.ofAnswer id asked.1]⟩) := by
  have hreply := session.rules.run_reply_of_some h t
  rw [rules, Repository.through_eq] at hreply
  show (Answer.reply ((session.rules.ruleSet.reply q).run t).1,
    ((session.rules.ruleSet.reply q).run t).2) = _
  rw [rules, Repository.through_eq, hreply]

theorem run_count (id : String) (t : Journaled σ) :
    (session.step (.count id)).run t =
      let asked := (session.repository.countMatching id).run t.state
      (.count asked.1, ⟨asked.2, t.trace⟩) := rfl

/-! ## Recording -/

/-- The query of a step at a state, with the answer of the store. -/
def noted? (step : Step κ) (s : σ) : Option (String × CountAnswer) :=
  step.query?.map fun id => (id, ((session.repository.countMatching id).run s).1)

/-- The queries that the steps of a session make the store answer, with the answers. -/
def queries : List (Step κ) → σ → List (String × CountAnswer)
  | [], _ => []
  | first :: rest, s =>
    (session.noted? first s).toList ++
      queries rest ((session.step first).run (Traced.ofState s)).2.state

/-- The session over the same store, which notes every query that reaches it with its answer.  A
command is carried out on the store and is not noted. -/
def recorded : Session (Traced (String × CountAnswer) σ) κ ρ where
  repository := session.repository.recorded
  holding := session.holding
  config := session.config
  perform c := fun t =>
    let done := (session.perform c).run ⟨t.state.state, t.trace⟩
    (done.1, ⟨⟨done.2.state, t.state.trace⟩, done.2.trace⟩)

/-- A step on a store that takes notes is the same step, and its query is noted. -/
theorem run_step_recorded (step : Step κ) (s : σ) (notes : List (String × CountAnswer))
    (events : List Event) :
    (session.recorded.step step).run ⟨⟨s, notes⟩, events⟩ =
      let taken := (session.step step).run ⟨s, events⟩
      (taken.1, ⟨⟨taken.2.state, notes ++ (session.noted? step s).toList⟩, taken.2.trace⟩) := by
  cases step with
  | ask q =>
    cases h : q.query? with
    | none =>
      rw [run_ask_of_none _ h, run_ask_of_none _ h]
      simp only [noted?, Step.query?, h, Option.map_none, Option.toList_none, List.append_nil]
      rfl
    | some id =>
      rw [run_ask_of_some _ h, run_ask_of_some _ h]
      simp only [noted?, Step.query?, h, Option.map_some, Option.toList_some]
      rfl
  | count id => rfl
  | config => simp only [noted?, Step.query?, Option.map_none, Option.toList_none,
      List.append_nil]; rfl
  | command c => simp only [noted?, Step.query?, Option.map_none, Option.toList_none,
      List.append_nil]; rfl

/-- **Taking notes changes nothing**, and the notes are the queries. -/
theorem run_recorded (steps : List (Step κ)) (s : σ) (notes : List (String × CountAnswer)) :
    session.recorded.run steps ⟨s, notes⟩ =
      ((session.run steps s).1, ⟨(session.run steps s).2, notes ++ session.queries steps s⟩) := by
  induction steps generalizing s notes with
  | nil => rw [run_nil, run_nil, queries, List.append_nil]
  | cons first rest ih =>
    rw [run_cons, run_cons, Traced.ofState, run_step_recorded]
    simp only [ih, queries, List.append_assoc]
    rfl

/-! ## Replaying -/

section Replay

variable {σ' κ' ρ' : Type} (other : Session σ' κ' ρ')

/-- A store that gives the same answer to the query of a step, if it has one, makes the step give
the same answer and write down the same events. -/
theorem run_step_replayed (hconfig : other.config = session.config) (step : Step κ) (s : σ)
    {s' left : σ'}
    (h : (((session.noted? step s).toList.map Prod.fst).mapM
        other.repository.countMatching).run s' =
      ((session.noted? step s).toList.map Prod.snd, left)) :
    let taken := (session.step step).run (Traced.ofState s)
    other.run step.replayed?.toList s' = (replayedAnswers [(taken.1, taken.2.trace)], left) := by
  intro taken
  cases step with
  | ask q =>
    cases hq : q.query? with
    | none =>
      simp only [noted?, Step.query?, hq, Option.map_none, Option.toList_none, List.map_nil] at h
      obtain ⟨-, rfl⟩ := Prod.mk.inj h
      simp only [taken, run_ask_of_none _ hq, Step.replayed?, Option.toList_some, run_cons, hconfig]
      rfl
    | some id =>
      simp only [noted?, Step.query?, hq, Option.map_some, Option.toList_some, List.map_cons,
        List.map_nil, run_mapM_cons, run_mapM_nil] at h
      obtain ⟨hanswer, hleft⟩ := Prod.mk.inj h
      obtain ⟨hanswer, -⟩ := List.cons.inj hanswer
      simp only [taken, run_ask_of_some _ hq, Step.replayed?, Option.toList_some, run_cons, hconfig,
        Traced.ofState, hanswer, hleft]
      rfl
  | count id =>
    simp only [noted?, Step.query?, Option.map_some, Option.toList_some, List.map_cons,
      List.map_nil, run_mapM_cons, run_mapM_nil] at h
    obtain ⟨hanswer, hleft⟩ := Prod.mk.inj h
    obtain ⟨hanswer, -⟩ := List.cons.inj hanswer
    simp only [taken, run_count, Step.replayed?, Option.toList_some, run_cons, Traced.ofState,
      hanswer, hleft]
    rfl
  | config =>
    obtain ⟨-, rfl⟩ := Prod.mk.inj h
    show (([(.config other.config, [])] : List (Answer ρ' × List Event)), s') = _
    rw [hconfig]
    rfl
  | command c =>
    obtain ⟨-, rfl⟩ := Prod.mk.inj h
    rfl

/-- **A session is replayed by the answers to its queries.**  Another store that gives the same
answers to the same queries makes the steps that are no commands give the same answers and write
down the same events. -/
theorem run_replayed (hconfig : other.config = session.config) (steps : List (Step κ)) (s : σ)
    {s' left : σ'}
    (h : (((session.queries steps s).map Prod.fst).mapM other.repository.countMatching).run s' =
      ((session.queries steps s).map Prod.snd, left)) :
    other.run (steps.filterMap Step.replayed?) s' =
      (replayedAnswers (session.run steps s).1, left) := by
  induction steps generalizing s s' with
  | nil =>
    obtain ⟨-, rfl⟩ := Prod.mk.inj h
    rfl
  | cons first rest ih =>
    rw [queries, List.map_append, List.map_append] at h
    obtain ⟨mid, hfirst, hrest⟩ := run_mapM_of_append _ (by simp) h
    rw [filterMap_replayed_cons, run_append, run_cons,
      session.run_step_replayed other hconfig first s hfirst]
    simp only [ih _ hrest, replayedAnswers_cons _ (session.run rest _).1]

end Replay

end Session

end Roster
