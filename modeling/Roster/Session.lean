import Roster.StandardRules

/-!
# Sessions

A session is one store, the standard rules over it, and a sequence of steps.  A step puts a
question to the rules, asks the store for a count, shows the configuration, or gives the store a
command of its own.

* `Question` and `Reply` — what can be asked of a rule set, and what it replies.
* `Session` — a store with its commands, how the rules hold it, and their configuration.
* `Session.run` — the answers of all steps, each with the events that the step wrote down.
-/

set_option autoImplicit false

namespace Roster

/-- A question that is put to a rule set about an account. -/
inductive Question
  | rule (name : RuleName) (a : Account)
  | validateNew (a : Account)
  | validateExisting (a : Account)

/-- What a rule set replies. -/
inductive Reply
  | rule (result : RuleResult)
  | validation (result : ValidationResult)

/-- The reply of a rule set to a question. -/
def RuleSet.reply {σ : Type} (rules : RuleSet σ) : Question → StateM σ Reply
  | .rule .present a => do return .rule (← rules.idIsPresent a)
  | .rule .length a => do return .rule (← rules.idIsCorrectLength a)
  | .rule .unique a => do return .rule (← rules.idIsUnique a)
  | .rule .willBeUnique a => do return .rule (← rules.idWillBeUnique a)
  | .validateNew a => do return .validation (← rules.validateNew a)
  | .validateExisting a => do return .validation (← rules.validateExisting a)

/-- A store with states of type `σ`, commands of type `κ` and outcomes of type `ρ`, and how the
rules are set up over it. -/
structure Session (σ κ ρ : Type) where
  repository : Repository σ
  holding : Holding
  config : RuleConfig
  perform : κ → StateM (Journaled σ) ρ

/-- One step of a session. -/
inductive Step (κ : Type)
  | ask (q : Question)
  | count (id : String)
  | config
  | command (c : κ)

/-- What a step gives. -/
inductive Answer (ρ : Type)
  | reply (r : Reply)
  | count (answer : CountAnswer)
  | config (c : RuleConfig)
  | outcome (o : ρ)

namespace Session

variable {σ κ ρ : Type} (session : Session σ κ ρ)

/-- The rules of a session. -/
def rules : StandardRules σ := ⟨session.repository.through session.holding, session.config⟩

/-- Takes one step. -/
def step : Step κ → StateM (Journaled σ) (Answer ρ)
  | .ask q => do return .reply (← session.rules.ruleSet.reply q)
  | .count id => do return .count (← Traced.silently (session.repository.countMatching id))
  | .config => return .config session.config
  | .command c => do return .outcome (← session.perform c)

/-- Takes steps one after the other, each with an empty journal.  The answers come with what was
written down, and the last state is given as well. -/
def run : List (Step κ) → σ → List (Answer ρ × List Event) × σ
  | [], s => ([], s)
  | first :: rest, s =>
    let taken := (session.step first).run (Traced.ofState s)
    let later := run rest taken.2.state
    ((taken.1, taken.2.trace) :: later.1, later.2)

theorem run_nil (s : σ) : session.run [] s = ([], s) := rfl

/-- The first step is taken from the given state and the others from the state that it leaves. -/
theorem run_cons (first : Step κ) (rest : List (Step κ)) (s : σ) :
    session.run (first :: rest) s =
      let taken := (session.step first).run (Traced.ofState s)
      ((taken.1, taken.2.trace) :: (session.run rest taken.2.state).1,
        (session.run rest taken.2.state).2) := rfl

end Session

end Roster
