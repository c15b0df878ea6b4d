import Roster.Proofs.Session.Run
import Roster.Store.Mock

/-!
# The stand-in is a queue of answers for every id

The stand-in for a store keeps one list of expectations for all ids, and serves a query from the
first expectation that still has an answer.  Seen from a single id this is a queue: the answers that
its expectations have left, one behind the other.  This file reads the queues off the list and says
what every operation does to them.

* `Expectation.left` — the answers that one expectation has left.
* `MockStore.pending` — the queue of an id.
* `MockStore.Operation` — what can be done with a stand-in, and `MockStore.reached`, the stand-in
  after a sequence of operations.
* `queue_of_serve` — serving a query takes the head of one queue.
* `stand_in_is_queues` — all operations, after any sequence of operations.
-/

set_option autoImplicit false

namespace Roster

/-- The answers that an expectation has left.  One that was asked more often than it is now expected
to be has none. -/
def Expectation.left (e : Expectation) : List Response :=
  List.replicate (e.times - e.calls) e.response

/-- An expectation answers for its own id, as long as it was not called as often as it should be. -/
theorem Expectation.answers_iff {e : Expectation} {id : String} :
    e.answers id = true ↔ e.id = id ∧ e.calls < e.times := by
  rw [answers, Bool.and_eq_true, beq_iff_eq, decide_eq_true_eq]

namespace MockStore

/-! ## Queues -/

/-- The answers left for an id among expectations, in the order of registration. -/
def queue (id : String) (expectations : List Expectation) : List Response :=
  (expectations.filter (·.id == id)).flatMap Expectation.left

/-- The answers that a stand-in has left for an id. -/
def pending (s : MockStore) (id : String) : List Response := queue id s.expectations

theorem queue_nil (id : String) : queue id [] = [] := rfl

theorem queue_cons (id : String) (e : Expectation) (es : List Expectation) :
    queue id (e :: es) = (if e.id = id then e.left else []) ++ queue id es := by
  rw [queue, List.filter_cons]
  split <;> simp_all [queue]

theorem queue_append (id : String) (es es' : List Expectation) :
    queue id (es ++ es') = queue id es ++ queue id es' := by
  rw [queue, List.filter_append, List.flatMap_append]
  rfl

/-- A queue is empty when no expectation has an answer for its id. -/
theorem queue_eq_nil_iff {id : String} {es : List Expectation} :
    queue id es = [] ↔ ∀ e ∈ es, e.answers id = false := by
  simp only [queue, Expectation.left, Expectation.answers, List.flatMap_eq_nil_iff,
    List.mem_filter, List.replicate_eq_nil_iff, Nat.sub_eq_zero_iff_le]
  grind

-- one answer used of two, an id in between, and an expectation that was called too often
example : queue "7" [⟨"7", .count 0, 2, 1⟩, ⟨"8", .count 5, 1, 0⟩, ⟨"7", .count 1, 1, 3⟩,
    ⟨"7", .failure "down", 2, 0⟩] = [.count 0, .failure "down", .failure "down"] := by
  decide

/-! ## Serving a query -/

/-- **Where a query is served.**  The expectation that serves it is the first with an answer; it is
called once more, and all others stay as they are. -/
theorem serve_eq_some {id : String} {es es' : List Expectation} {r : Response}
    (h : serve id es = some (r, es')) :
    ∃ before e after, es = before ++ e :: after ∧ (∀ b ∈ before, b.answers id = false) ∧
      e.answers id = true ∧ r = e.response ∧
      es' = before ++ { e with calls := e.calls + 1 } :: after := by
  induction es generalizing es' with
  | nil => simp [serve] at h
  | cons e es ih =>
    rw [serve] at h
    split at h
    · next ha =>
      obtain ⟨rfl, rfl⟩ := Prod.mk.inj (Option.some.inj h)
      exact ⟨[], e, es, rfl, by simp, ha, rfl, rfl⟩
    · next ha =>
      obtain ⟨⟨r', rest⟩, hserve, heq⟩ := Option.map_eq_some_iff.mp h
      obtain ⟨rfl, rfl⟩ := Prod.mk.inj heq
      obtain ⟨before, e', after, rfl, hbefore, he', hr, rfl⟩ := ih hserve
      refine ⟨e :: before, e', after, rfl, fun b hb => ?_, he', hr, rfl⟩
      rcases List.mem_cons.mp hb with rfl | hb
      · exact Bool.eq_false_iff.mpr ha
      · exact hbefore b hb

theorem serve_eq_none_iff {id : String} {es : List Expectation} :
    serve id es = none ↔ ∀ e ∈ es, e.answers id = false := by
  induction es with
  | nil => simp [serve]
  | cons e es ih =>
    rw [serve, List.forall_mem_cons]
    split
    · next ha => simp [ha]
    · next ha => simp [ih, ha]

/-- An expectation that is called loses the head of what it has left. -/
theorem left_of_answers {e : Expectation} {id : String} (h : e.answers id = true) :
    e.left = e.response :: ({ e with calls := e.calls + 1 } : Expectation).left := by
  have hlt : e.calls < e.times := (Expectation.answers_iff.mp h).2
  simp only [Expectation.left, ← List.replicate_succ]
  congr 1
  omega

/-- **A query that is served takes the head of its queue**, and no other queue changes. -/
theorem queue_of_serve {id : String} {es es' : List Expectation} {r : Response}
    (h : serve id es = some (r, es')) :
    queue id es = r :: queue id es' ∧ ∀ id', id' ≠ id → queue id' es' = queue id' es := by
  obtain ⟨before, e, after, rfl, hbefore, he, rfl, rfl⟩ := serve_eq_some h
  have hid : e.id = id := (Expectation.answers_iff.mp he).1
  constructor
  · rw [queue_append, queue_append, queue_eq_nil_iff.mpr hbefore, List.nil_append,
      List.nil_append, queue_cons, queue_cons, if_pos hid, if_pos hid, left_of_answers he,
      List.cons_append]
  · intro id' hne
    have hne' : e.id ≠ id' := fun h => hne (h.symm.trans hid)
    rw [queue_append, queue_append, queue_cons, queue_cons, if_neg hne', if_neg hne']

/-! ## The operations -/

theorem run_query_of_serve {s : MockStore} {id : String} {r : Response} {es : List Expectation}
    (h : serve id s.expectations = some (r, es)) :
    (repository.countMatching id).run s = (r.answer, ⟨es, s.calls ++ [id], s.unexpected⟩) := by
  simp only [repository, StateT.run, h]

theorem run_query_of_none {s : MockStore} {id : String} (h : serve id s.expectations = none) :
    (repository.countMatching id).run s = (.error (unexpectedFailure id),
      ⟨s.expectations, s.calls ++ [id], s.unexpected ++ [id]⟩) := by
  simp only [repository, StateT.run, h]

/-- A query with answers left gets the first of them. -/
theorem run_query_of_cons {s : MockStore} {id : String} {r : Response} {rest : List Response}
    (h : s.pending id = r :: rest) :
    let asked := (repository.countMatching id).run s
    asked.1 = r.answer ∧ asked.2.pending id = rest ∧
      (∀ id', id' ≠ id → asked.2.pending id' = s.pending id') ∧
      asked.2.calls = s.calls ++ [id] ∧ asked.2.unexpected = s.unexpected := by
  cases hserve : serve id s.expectations with
  | none =>
    rw [pending, queue_eq_nil_iff.mpr (serve_eq_none_iff.mp hserve)] at h
    exact absurd h (List.cons_ne_nil r rest).symm
  | some served =>
    obtain ⟨r', es'⟩ := served
    obtain ⟨hhead, hother⟩ := queue_of_serve hserve
    obtain ⟨rfl, hrest⟩ := List.cons.inj (hhead.symm.trans h)
    rw [run_query_of_serve hserve]
    exact ⟨rfl, hrest, hother, rfl, rfl⟩

/-- A query without answers left fails, and is noted as unexpected. -/
theorem run_query_of_nil {s : MockStore} {id : String} (h : s.pending id = []) :
    (repository.countMatching id).run s = (.error (unexpectedFailure id),
      ⟨s.expectations, s.calls ++ [id], s.unexpected ++ [id]⟩) :=
  run_query_of_none (serve_eq_none_iff.mpr (queue_eq_nil_iff.mp h))

/-- A new expectation puts its one answer behind all others for its id. -/
theorem pending_expect (s : MockStore) (id : String) (r : Response) (id' : String) :
    ((expect id r).run s).2.pending id' = s.pending id' ++ if id = id' then [r] else [] := by
  show queue id' (s.expectations ++ [_]) = _
  rw [queue_append, queue_cons, queue_nil, List.append_nil]
  rfl

/-- The queue of an id in three parts: before an expectation, the expectation, and behind it. -/
theorem queue_eq_of_lt {es : List Expectation} {k : Nat} (h : k < es.length) (id : String) :
    queue id es = queue id (es.take k) ++ (if es[k].id = id then es[k].left else []) ++
      queue id (es.drop (k + 1)) := by
  calc queue id es = queue id (es.take k ++ es[k] :: es.drop (k + 1)) := by
        rw [List.getElem_cons_drop, List.take_append_drop]
    _ = _ := by rw [queue_append, queue_cons, List.append_assoc]

/-- Another number of times replaces what the one expectation has left. -/
theorem pending_setTimes (s : MockStore) {k : Nat} (h : k < s.expectations.length) (times : Nat)
    (id : String) :
    ((setTimes k times).run s).2.pending id =
      queue id (s.expectations.take k) ++
        (if s.expectations[k].id = id then
          List.replicate (times - s.expectations[k].calls) s.expectations[k].response else []) ++
        queue id (s.expectations.drop (k + 1)) := by
  show queue id (s.expectations.modify k _) = _
  rw [List.modify_eq_take_cons_drop h, queue_append, queue_cons, List.append_assoc]
  rfl

/-! ## Sequences of operations -/

/-- What can be done with a stand-in: to register an answer, to change a number of times by the
handle of an expectation, and to ask. -/
inductive Operation
  | expect (id : String) (response : Response)
  | setTimes (handle times : Nat)
  | query (id : String)

namespace Operation

/-- Carries out an operation, and passes over what it gives. -/
def carryOut : Operation → StateM MockStore Unit
  | expect id response => discard (MockStore.expect id response)
  | setTimes handle times => MockStore.setTimes handle times
  | query id => discard (repository.countMatching id)

/-- The id that an operation asks for. -/
def query? : Operation → Option String
  | query id => some id
  | _ => none

/-- The id and the answer that an operation registers. -/
def registration? : Operation → Option (String × Response)
  | expect id response => some (id, response)
  | _ => none

end Operation

/-- The stand-in after operations, with nothing expected before. -/
def reached (ops : List Operation) : MockStore := ((ops.mapM Operation.carryOut).run empty).2

/-- The last operation is carried out on the stand-in that the ones before it left. -/
theorem reached_append_singleton (ops : List Operation) (op : Operation) :
    reached (ops ++ [op]) = (op.carryOut.run (reached ops)).2 := by
  rw [reached, run_mapM_append]
  rfl

/-- What was registered, in order. -/
def registered (s : MockStore) : List (String × Response) :=
  s.expectations.map fun e => (e.id, e.response)

/-- Another number of times shows only where the number of times is looked at. -/
theorem map_modify_times {β : Type} {f : Expectation → β}
    (hf : ∀ (e : Expectation) (times : Nat), f { e with times := times } = f e)
    (es : List Expectation) (handle times : Nat) :
    (es.modify handle fun e => { e with times := times }).map f = es.map f := by
  refine List.ext_getElem? fun k => ?_
  simp only [List.getElem?_map, List.getElem?_modify]
  cases es[k]? with
  | none => rfl
  | some e =>
    split
    · exact congrArg some (hf e times)
    · rfl

theorem registered_setTimes (handle times : Nat) (s : MockStore) :
    ((setTimes handle times).run s).2.registered = s.registered :=
  map_modify_times (fun _ _ => rfl) s.expectations handle times

theorem registered_query (id : String) (s : MockStore) :
    ((repository.countMatching id).run s).2.registered = s.registered := by
  cases h : serve id s.expectations with
  | none =>
    rw [run_query_of_none h]
    rfl
  | some served =>
    obtain ⟨r, es⟩ := served
    obtain ⟨before, e, after, hes, -, -, -, rfl⟩ := serve_eq_some h
    rw [run_query_of_serve h, registered, registered, hes]
    simp

theorem calls_query (id : String) (s : MockStore) :
    ((repository.countMatching id).run s).2.calls = s.calls ++ [id] := by
  cases h : s.pending id with
  | nil => rw [run_query_of_nil h]
  | cons r rest => exact (run_query_of_cons h).2.2.2.1

/-- An operation adds what it registers. -/
theorem registered_carryOut (op : Operation) (s : MockStore) :
    (op.carryOut.run s).2.registered = s.registered ++ op.registration?.toList := by
  cases op with
  | expect id r =>
    show (s.expectations ++ [_]).map _ = _
    rw [List.map_append]
    rfl
  | setTimes handle times =>
    exact (registered_setTimes handle times s).trans (List.append_nil _).symm
  | query id => exact (registered_query id s).trans (List.append_nil _).symm

/-- An operation adds the id it asks for. -/
theorem calls_carryOut (op : Operation) (s : MockStore) :
    (op.carryOut.run s).2.calls = s.calls ++ op.query?.toList := by
  cases op with
  | expect id r => exact (List.append_nil _).symm
  | setTimes handle times => exact (List.append_nil _).symm
  | query id => exact calls_query id s

/-- What every operation adds to a list, a sequence of operations adds in order. -/
theorem view_run {β : Type} (view : MockStore → List β) (part : Operation → Option β)
    (h : ∀ op s, view (op.carryOut.run s).2 = view s ++ (part op).toList) (ops : List Operation)
    (s : MockStore) :
    view ((ops.mapM Operation.carryOut).run s).2 = view s ++ ops.filterMap part := by
  induction ops generalizing s with
  | nil => exact (List.append_nil _).symm
  | cons op ops ih =>
    rw [run_mapM_cons]
    refine (ih _).trans ?_
    rw [h, List.append_assoc, List.filterMap_cons]
    cases part op <;> rfl

/-- **The stand-in is a queue of answers for every id.**  After any sequence of operations

* the ids that were asked for are those of the queries, in order, and the expectations are those
  that were registered, in order;
* a query gets the head of the queue of its id and leaves the tail: a count is answered as it is, and
  a failure with its message and nothing below it.  If there is nothing in the queue, the query fails
  and is noted as unexpected.  The queues of all other ids stay as they are;
* a new expectation has the next handle and puts its one answer behind all others for its id;
* another number of times for an expectation replaces the part of the queue that is its own by as
  many answers as it still has with this number, and nothing else. -/
theorem stand_in_is_queues (ops : List Operation) :
    let s := reached ops
    s.calls = ops.filterMap Operation.query? ∧
      s.registered = ops.filterMap Operation.registration? ∧
      (∀ id, let asked := (repository.countMatching id).run s
        let leaves (rest : List Response) : Prop := asked.2.unexpected = s.unexpected ∧
          ∀ id', asked.2.pending id' = if id' = id then rest else s.pending id'
        match s.pending id with
        | .count n :: rest => asked.1 = .ok n ∧ leaves rest
        | .failure message :: rest => asked.1 = .error ⟨message, []⟩ ∧ leaves rest
        | [] => asked.1 =
            .error ⟨"unexpected call: count_matching_id(" ++ Text.quoted id ++ ")", []⟩ ∧
            asked.2.unexpected = s.unexpected ++ [id] ∧
            ∀ id', asked.2.pending id' = s.pending id') ∧
      (∀ id r, let made := (expect id r).run s
        made.1 = s.registered.length ∧
          ∀ id', made.2.pending id' = if id' = id then s.pending id ++ [r] else s.pending id') ∧
      (∀ (k : Fin s.expectations.length) (times : Nat),
        let e := s.expectations[k.val]
        let before := queue e.id (s.expectations.take k)
        let behind := queue e.id (s.expectations.drop (k + 1))
        s.pending e.id = before ++ List.replicate (e.times - e.calls) e.response ++ behind ∧
          ∀ id', ((setTimes k times).run s).2.pending id' =
            if id' = e.id then before ++ List.replicate (times - e.calls) e.response ++ behind
            else s.pending id') := by
  intro s
  refine ⟨?_, ?_, fun id => ?_, fun id r => ⟨?_, fun id' => ?_⟩, fun k times => ⟨?_, fun id' => ?_⟩⟩
  · exact view_run MockStore.calls Operation.query? calls_carryOut ops empty
  · exact view_run registered Operation.registration? registered_carryOut ops empty
  · intro asked leaves
    cases h : s.pending id with
    | nil =>
      have hasked : asked = _ := run_query_of_nil h
      rw [hasked]
      exact ⟨rfl, rfl, fun _ => rfl⟩
    | cons r rest =>
      obtain ⟨hanswer, hrest, hother, -, hunexpected⟩ := run_query_of_cons h
      have hleaves : leaves rest := by
        refine ⟨hunexpected, fun id' => ?_⟩
        split
        · next hid => rw [hid, hrest]
        · next hid => exact hother id' hid
      cases r with
      | count n => exact ⟨hanswer, hleaves⟩
      | failure message => exact ⟨hanswer, hleaves⟩
  · exact (List.length_map _).symm
  · rw [pending_expect]
    by_cases hid : id' = id
    · rw [hid, if_pos rfl, if_pos rfl]
    · rw [if_neg hid, if_neg (Ne.symm hid), List.append_nil]
  · exact (queue_eq_of_lt k.isLt _).trans (by rw [if_pos rfl]; rfl)
  · rw [pending_setTimes s k.isLt]
    by_cases hid : id' = s.expectations[k.val].id
    · rw [hid, if_pos rfl, if_pos rfl]
    · rw [if_neg hid, pending, queue_eq_of_lt k.isLt, if_neg (Ne.symm hid), if_neg (Ne.symm hid)]

/-- A count and a failure are queued for one id, with an answer for another id between them.  Two
queries take them out in this order; a third finds nothing. -/
theorem queues_serve_count_and_failure :
    let ops : List Operation :=
      [.expect "a" (.count 2), .expect "b" (.count 7), .expect "a" (.failure "down")]
    let ask (ops : List Operation) := (repository.countMatching "a").run (reached ops)
    let first := ask ops
    let second := ask (ops ++ [.query "a"])
    let third := ask (ops ++ [.query "a", .query "a"])
    (reached ops).pending "a" = [.count 2, .failure "down"] ∧
      (first.1 = .ok 2 ∧ first.2.pending "a" = [.failure "down"] ∧
        first.2.pending "b" = [.count 7]) ∧
      (second.1 = .error ⟨"down", []⟩ ∧ second.2.pending "a" = [] ∧ second.2.unexpected = []) ∧
      third.1 = .error ⟨"unexpected call: count_matching_id(\"a\")", []⟩ ∧
      third.2.unexpected = ["a"] := by
  intro ops ask first second third
  obtain ⟨-, -, hfirst, -⟩ := stand_in_is_queues ops
  obtain ⟨-, -, hsecond, -⟩ := stand_in_is_queues (ops ++ [.query "a"])
  obtain ⟨-, -, hthird, -⟩ := stand_in_is_queues (ops ++ [.query "a", .query "a"])
  obtain ⟨hcount, -, hleft⟩ := hfirst "a"
  obtain ⟨hfailure, hnoted, hleft'⟩ := hsecond "a"
  obtain ⟨hnothing, hunexpected, -⟩ := hthird "a"
  exact ⟨rfl, ⟨hcount, hleft "a", hleft "b"⟩, ⟨hfailure, hleft' "a", hnoted⟩, hnothing, hunexpected⟩

end MockStore
end Roster
