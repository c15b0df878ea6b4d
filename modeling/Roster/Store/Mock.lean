import Roster.Journal

/-!
# The store that answers from expectations

A stand-in for a store.  What it is going to be asked is registered beforehand, together with the
answers; afterwards it tells whether it was asked exactly that.

* `Expectation` — an id, the answer to the query for it, and how often the query is expected.
* `MockStore.expect`, `MockStore.setTimes` — registering, and changing the number of times.
* `MockStore.repository` — the store as something that rules can ask.
* `MockStore.assess` — whether the expectations were met.
-/

set_option autoImplicit false

namespace Roster

/-- An answer that is fixed beforehand. -/
inductive Response
  | count (n : Nat)
  | failure (message : String)
deriving DecidableEq

/-- A fixed answer as the answer of a store. -/
def Response.answer : Response → CountAnswer
  | .count n => .ok n
  | .failure message => .error ⟨message, []⟩

/-- A query that is expected: for which id, what it is answered, how often it is to be made and how
often it has been made. -/
structure Expectation where
  id : String
  response : Response
  times : Nat
  calls : Nat
deriving DecidableEq

/-- Whether an expectation still has an answer to the query for an id. -/
def Expectation.answers (e : Expectation) (id : String) : Bool :=
  e.id == id && e.calls < e.times

/-- The expectations in the order of registration, all ids that were asked for, and those among
them that no expectation was for, both in the order of the queries. -/
structure MockStore where
  expectations : List Expectation
  calls : List String
  unexpected : List String
deriving DecidableEq

/-- Whether a stand-in was asked what was expected. -/
inductive Assessment
  /-- It was asked exactly that. -/
  | met
  /-- It was asked for ids that nothing expected. -/
  | unexpected (ids : List String)
  /-- It was asked for an id too rarely or too often. -/
  | unmet (id : String) (expected actual : Nat)
deriving DecidableEq

/-- The words for a stand-in that was not asked what was expected. -/
def Assessment.complaint? : Assessment → Option String
  | .met => none
  | .unexpected ids =>
    some ("unexpected count_matching_id calls: " ++ Text.quotedList ids)
  | .unmet id expected actual =>
    some ("assertion `left == right` failed: count_matching_id(" ++ Text.quoted id ++
      ") expected " ++ toString expected ++ " call(s), got " ++ toString actual ++
      "\n  left: " ++ toString actual ++ "\n right: " ++ toString expected)

namespace MockStore

/-- The stand-in that expects nothing. -/
def empty : MockStore := ⟨[], [], []⟩

/-- Expects one query for an id, behind all other expectations.  The answer is its handle. -/
def expect (id : String) (response : Response) : StateM MockStore Nat := fun s =>
  (s.expectations.length, { s with expectations := s.expectations ++ [⟨id, response, 1, 0⟩] })

/-- Changes how often the query of a handle is expected. -/
def setTimes (handle times : Nat) : StateM MockStore Unit := fun s =>
  ((), { s with expectations := s.expectations.modify handle fun e => { e with times := times } })

/-- Takes the answer to the query for an id from the first expectation that still has one. -/
def serve (id : String) : List Expectation → Option (Response × List Expectation)
  | [] => none
  | e :: es =>
    if e.answers id then some (e.response, { e with calls := e.calls + 1 } :: es)
    else (serve id es).map fun (r, es) => (r, e :: es)

/-- The failure of a query that nothing expects. -/
def unexpectedFailure (id : String) : StoreFailure :=
  ⟨"unexpected call: count_matching_id(" ++ Text.quoted id ++ ")", []⟩

/-- The stand-in as something that can be asked. -/
def repository : Repository MockStore where
  countMatching id := fun s =>
    match serve id s.expectations with
    | some (response, expectations) =>
      (response.answer, ⟨expectations, s.calls ++ [id], s.unexpected⟩)
    | none =>
      (.error (unexpectedFailure id),
        ⟨s.expectations, s.calls ++ [id], s.unexpected ++ [id]⟩)

/-- Whether the expectations were met.  Queries that nothing expected count first; otherwise the
first expectation that was not met as often as it should have been. -/
def assess (s : MockStore) : Assessment :=
  if s.unexpected ≠ [] then .unexpected s.unexpected
  else
    match s.expectations.find? fun e => e.calls != e.times with
    | some e => .unmet e.id e.times e.calls
    | none => .met

/-- What can be asked of the stand-in besides a count. -/
inductive Command
  | expect (id : String) (response : Response)
  | setTimes (handle times : Nat)
  | calls
  | assess

/-- What the stand-in gives back for a command. -/
inductive Outcome
  | handle (index : Nat)
  | done
  | calls (ids : List String)
  | assessment (a : Assessment)

/-- Carries out a command.  Nothing of it is written down. -/
def perform : Command → StateM (Journaled MockStore) Outcome
  | .expect id response => do return .handle (← Traced.silently (expect id response))
  | .setTimes handle times => do
    Traced.silently (setTimes handle times)
    return .done
  | .calls => do return .calls (← get).state.calls
  | .assess => do return .assessment (← get).state.assess

end MockStore

end Roster
