import Roster.Repository
import Roster.Text.Quoted

/-!
# States with a trace, and the journal

A trace is the list of what has happened to a state, oldest first.  An action on the state alone
leaves the trace as it is; `Traced.record` adds one entry to it.  The journal is the trace that has
one line for each event.

* `Traced` — a state together with a trace.
* `Event` — the events, and `Event.line`, the line of each.
* `Journaled` — a state together with the journal of what has happened to it so far.
-/

set_option autoImplicit false

namespace Roster

/-- A state of type `σ` and the entries of type `ω` written down so far. -/
structure Traced (ω σ : Type) where
  state : σ
  trace : List ω

namespace Traced

variable {ω σ α : Type}

/-- A state with nothing written down. -/
def ofState (s : σ) : Traced ω σ := ⟨s, []⟩

/-- Does something to the state and writes nothing down. -/
def silently (act : StateM σ α) : StateM (Traced ω σ) α := fun t =>
  ((act.run t.state).1, ⟨(act.run t.state).2, t.trace⟩)

/-- Writes an entry down. -/
def record (entry : ω) : StateM (Traced ω σ) Unit := fun t =>
  ((), ⟨t.state, t.trace ++ [entry]⟩)

end Traced

/-- Something worth a line in the journal. -/
inductive Event
  /-- A store took in an account with this id. -/
  | stored (id : String)
  /-- A rule learned how many accounts hold this id. -/
  | counted (count : Nat) (id : String)
  /-- A rule could not learn how many accounts hold this id. -/
  | countFailed (id message : String)
deriving DecidableEq

namespace Event

/-- The line of an event: its level and what happened.  The id of a stored account stands in it as
it is, the other ids are quoted. -/
def line : Event → String
  | .stored id => "DEBUG Storing account " ++ id ++ " in memory"
  | .counted count id =>
    "DEBUG " ++ toString count ++ " account(s) hold ID " ++ Text.quoted id
  | .countFailed id message =>
    "WARN Failed to count accounts with ID " ++ Text.quoted id ++ ": " ++ message

/-- The event of an answer to the query for an id. -/
def ofAnswer (id : String) : CountAnswer → Event
  | .ok count => .counted count id
  | .error failure => .countFailed id failure.message

end Event

/-- A state and the journal of what has happened to it so far. -/
abbrev Journaled (σ : Type) := Traced Event σ

end Roster
