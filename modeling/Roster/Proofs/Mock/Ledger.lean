import Mathlib
import Roster.Proofs.Mock.Queues

/-!
# The ledger of a stand-in

A stand-in writes a query down in two places: among all ids that were asked for, and then either in
the calls of the expectation that serves it or among the ids that nothing expected.  In between the
numbers of times may be changed by the handles of the expectations, even below what was served
already.  The three records agree nevertheless, and a handle keeps denoting what it was given for.

* `Expectation.entries` — the calls of an expectation, written out.
* `Balanced` — every query is entered exactly once.  Every operation keeps this
  (`Balanced.carryOut`), and so every sequence of them leaves it (`balanced_reached`).
* `Becomes` — all that one operation can do to an expectation (`becomes_carryOut`).
* `timesHad` — the numbers of times that an expectation has had; it was never called more often than
  the largest of them (`exists_timesHad_of_reached`).
* `handle_denotes` — the expectation that a handle denotes, whatever was done since.
* `ledger_balances` — all of this, after any sequence of operations.
-/

set_option autoImplicit false

namespace Roster

/-- The calls of an expectation, as its id that many times. -/
def Expectation.entries (e : Expectation) : List String := List.replicate e.calls e.id

namespace MockStore

open scoped List

/-! ## Every query is entered once -/

/-- The three records of the queries agree. -/
structure Balanced (s : MockStore) : Prop where
  /-- Every query is a call of one expectation for its id or an unexpected one, and nothing else
  is. -/
  calls : s.calls ~ s.expectations.flatMap Expectation.entries ++ s.unexpected
  /-- The unexpected queries stand in the order in which they came. -/
  unexpected : s.unexpected <+ s.calls

theorem Balanced.empty : Balanced MockStore.empty := ⟨.refl _, .refl _⟩

/-- Serving a query enters it with one expectation. -/
theorem entries_of_serve {id : String} {es es' : List Expectation} {r : Response}
    (h : serve id es = some (r, es')) :
    es'.flatMap Expectation.entries ~ id :: es.flatMap Expectation.entries := by
  obtain ⟨before, e, after, rfl, -, hanswers, -, rfl⟩ := serve_eq_some h
  have hid : e.id = id := (Expectation.answers_iff.mp hanswers).1
  have hentered : ({ e with calls := e.calls + 1 } : Expectation).entries = id :: e.entries := by
    rw [← hid]
    rfl
  rw [List.flatMap_append, List.flatMap_append, List.flatMap_cons, List.flatMap_cons, hentered,
    List.cons_append]
  exact List.perm_middle

theorem entries_setTimes (handle times : Nat) (s : MockStore) :
    ((setTimes handle times).run s).2.expectations.flatMap Expectation.entries =
      s.expectations.flatMap Expectation.entries := by
  rw [List.flatMap_def, List.flatMap_def]
  exact congrArg List.flatten (map_modify_times (fun _ _ => rfl) s.expectations handle times)

theorem Balanced.query {s : MockStore} (h : s.Balanced) (id : String) :
    ((repository.countMatching id).run s).2.Balanced := by
  cases hserve : serve id s.expectations with
  | none =>
    rw [run_query_of_none hserve]
    refine ⟨?_, h.unexpected.append (.refl [id])⟩
    rw [← List.append_assoc]
    exact h.calls.append_right [id]
  | some served =>
    obtain ⟨r, es⟩ := served
    rw [run_query_of_serve hserve]
    refine ⟨?_, h.unexpected.trans (List.sublist_append_left s.calls [id])⟩
    calc s.calls ++ [id] ~ id :: s.calls := List.perm_append_singleton id s.calls
      _ ~ id :: (s.expectations.flatMap Expectation.entries ++ s.unexpected) := h.calls.cons id
      _ ~ es.flatMap Expectation.entries ++ s.unexpected :=
        (entries_of_serve hserve).symm.append_right s.unexpected

/-- **Every operation keeps the records in agreement.** -/
theorem Balanced.carryOut {s : MockStore} (h : s.Balanced) (op : Operation) :
    (op.carryOut.run s).2.Balanced := by
  cases op with
  | expect id r =>
    refine ⟨?_, h.unexpected⟩
    -- a new expectation has no calls yet
    have hnew : ((expect id r).run s).2.expectations.flatMap Expectation.entries =
        s.expectations.flatMap Expectation.entries :=
      List.flatMap_append.trans (List.append_nil _)
    exact h.calls.trans (List.Perm.of_eq (congrArg (· ++ _) hnew.symm))
  | setTimes handle times =>
    refine ⟨?_, h.unexpected⟩
    exact h.calls.trans (List.Perm.of_eq (congrArg (· ++ _) (entries_setTimes handle times s).symm))
  | query id => exact h.query id

theorem balanced_reached (ops : List Operation) : (reached ops).Balanced := by
  induction ops using List.reverseRecOn with
  | nil => exact .empty
  | append_singleton ops op ih =>
    rw [reached_append_singleton]
    exact ih.carryOut op

/-- The entries for an id are the calls of the expectations for it. -/
theorem count_entries (id : String) (es : List Expectation) :
    (es.flatMap Expectation.entries).count id =
      ((es.filter (·.id == id)).map Expectation.calls).sum := by
  induction es with
  | nil => rfl
  | cons e es ih =>
    rw [List.flatMap_cons, List.count_append, ih, Expectation.entries, List.count_replicate,
      List.filter_cons]
    split
    · rw [List.map_cons, List.sum_cons]
    · rw [Nat.zero_add]

theorem length_entries (es : List Expectation) :
    (es.flatMap Expectation.entries).length = (es.map Expectation.calls).sum := by
  simp only [List.length_flatMap, Expectation.entries, List.length_replicate]

/-! ## What becomes of an expectation -/

/-- All that an operation can do to the expectation of a handle, which may be new. -/
inductive Becomes (op : Operation) (handle : Nat) : Option Expectation → Expectation → Prop
  /-- It is registered. -/
  | registered {id : String} {r : Response} :
      op = .expect id r → Becomes op handle none ⟨id, r, 1, 0⟩
  /-- It stays as it is. -/
  | kept {e : Expectation} : Becomes op handle (some e) e
  /-- Its own handle gives it another number of times. -/
  | setTimes {e : Expectation} {times : Nat} :
      op = .setTimes handle times → Becomes op handle (some e) { e with times := times }
  /-- It serves a query, for which it has to have an answer left. -/
  | called {e : Expectation} :
      op = .query e.id → e.calls < e.times →
      Becomes op handle (some e) { e with calls := e.calls + 1 }

theorem modify_append_cons (f : Expectation → Expectation) (before : List Expectation)
    (e : Expectation) (behind : List Expectation) :
    (before ++ e :: behind).modify before.length f = before ++ f e :: behind := by
  induction before with
  | nil => rfl
  | cons first before ih => exact congrArg (first :: ·) ih

theorem getElem?_append_cons (before : List Expectation) (e : Expectation)
    (behind : List Expectation) : (before ++ e :: behind)[before.length]? = some e := by
  rw [List.getElem?_append_right (Nat.le_refl _), Nat.sub_self, List.getElem?_cons_zero]

theorem becomes_expect {id : String} {r : Response} {s : MockStore} {handle : Nat}
    {e : Expectation} (h : ((expect id r).run s).2.expectations[handle]? = some e) :
    Becomes (.expect id r) handle s.expectations[handle]? e := by
  have h' : (s.expectations ++ [⟨id, r, 1, 0⟩])[handle]? = some e := h
  rcases Nat.lt_or_ge handle s.expectations.length with hlt | hge
  · rw [List.getElem?_append_left hlt] at h'
    rw [h']
    exact .kept
  · rw [List.getElem?_append_right hge] at h'
    obtain rfl : e = ⟨id, r, 1, 0⟩ := List.mem_singleton.mp (List.mem_of_getElem? h')
    rw [List.getElem?_eq_none hge]
    exact .registered rfl

theorem becomes_setTimes {handle' times : Nat} {s : MockStore} {handle : Nat} {e : Expectation}
    (h : ((MockStore.setTimes handle' times).run s).2.expectations[handle]? = some e) :
    Becomes (.setTimes handle' times) handle s.expectations[handle]? e := by
  have h' : (s.expectations.modify handle' fun e => { e with times := times })[handle]? =
      some e := h
  rw [List.getElem?_modify] at h'
  obtain ⟨e', he', rfl⟩ := Option.map_eq_some_iff.mp h'
  rw [he']
  split
  · next heq => exact .setTimes (heq ▸ rfl)
  · exact .kept

theorem becomes_query {id : String} {s : MockStore} {handle : Nat} {e : Expectation}
    (h : ((repository.countMatching id).run s).2.expectations[handle]? = some e) :
    Becomes (.query id) handle s.expectations[handle]? e := by
  cases hserve : serve id s.expectations with
  | none =>
    rw [run_query_of_none hserve] at h
    rw [h]
    exact .kept
  | some served =>
    obtain ⟨r, es⟩ := served
    obtain ⟨before, server, behind, hes, -, hanswers, -, rfl⟩ := serve_eq_some hserve
    obtain ⟨rfl, hlt⟩ := Expectation.answers_iff.mp hanswers
    rw [run_query_of_serve hserve,
      ← modify_append_cons (fun e => { e with calls := e.calls + 1 }), ← hes,
      List.getElem?_modify] at h
    obtain ⟨e', he', rfl⟩ := Option.map_eq_some_iff.mp h
    rw [he']
    split
    · next heq =>
      -- the handle is that of the expectation that serves the query
      obtain rfl : server = e' := by
        rw [← heq, hes, getElem?_append_cons] at he'
        exact Option.some.inj he'
      exact .called rfl hlt
    · exact .kept

/-- **What an operation does to an expectation.** -/
theorem becomes_carryOut {op : Operation} {s : MockStore} {handle : Nat} {e : Expectation}
    (h : (op.carryOut.run s).2.expectations[handle]? = some e) :
    Becomes op handle s.expectations[handle]? e := by
  cases op with
  | expect id r => exact becomes_expect h
  | setTimes handle' times => exact becomes_setTimes h
  | query id => exact becomes_query h

/-- **What holds of the expectation of a handle.**  It is enough that it holds at the registration,
and that nothing that becomes of the expectation ends it. -/
theorem holds_of_reached {handle : Nat} {P : List Operation → Expectation → Prop}
    (hstep : ∀ ops op old e, (∀ e' ∈ old, P ops e') → Becomes op handle old e →
      (reached (ops ++ [op])).expectations[handle]? = some e → P (ops ++ [op]) e)
    {ops : List Operation} {e : Expectation}
    (h : (reached ops).expectations[handle]? = some e) : P ops e := by
  induction ops using List.reverseRecOn generalizing e with
  | nil =>
    have hnone : (reached []).expectations[handle]? = none := List.getElem?_nil
    exact absurd (hnone.symm.trans h) (Option.some_ne_none e).symm
  | append_singleton ops op ih =>
    refine hstep ops op (reached ops).expectations[handle]? e (fun e' he' => ih he') ?_ h
    rw [reached_append_singleton] at h
    exact becomes_carryOut h

/-! ## Calls and numbers of times -/

/-- The number of times that an operation gives to the expectation of a handle. -/
def Operation.timesFor? (handle : Nat) : Operation → Option Nat
  | .setTimes handle' times => if handle' = handle then some times else none
  | _ => none

/-- The numbers of times that the expectation of a handle has had: after each of the operations,
from its registration on. -/
def timesHad (handle : Nat) (ops : List Operation) : List Nat :=
  ops.inits.filterMap fun earlier => (reached earlier).expectations[handle]?.map Expectation.times

theorem mem_timesHad {handle n : Nat} {ops : List Operation} :
    n ∈ timesHad handle ops ↔ ∃ earlier, earlier <+: ops ∧
      ∃ e, (reached earlier).expectations[handle]? = some e ∧ e.times = n := by
  simp only [timesHad, List.mem_filterMap, List.mem_inits, Option.map_eq_some_iff]

theorem timesHad_subset_append (handle : Nat) (ops more : List Operation) :
    timesHad handle ops ⊆ timesHad handle (ops ++ more) := by
  intro n hn
  obtain ⟨earlier, hearlier, had⟩ := mem_timesHad.mp hn
  exact mem_timesHad.mpr ⟨earlier, hearlier.trans (List.prefix_append ops more), had⟩

/-- **An expectation is never called more often than it was once expected to be.**  Only an
expectation with an answer left is called, and when its number of times is lowered, the number that
it had stays in its past. -/
theorem exists_timesHad_of_reached {ops : List Operation} {handle : Nat} {e : Expectation}
    (h : (reached ops).expectations[handle]? = some e) :
    ∃ n ∈ timesHad handle ops, e.calls ≤ n := by
  refine holds_of_reached (P := fun ops e => ∃ n ∈ timesHad handle ops, e.calls ≤ n)
    (fun ops op old e hold hbecomes he => ?_) h
  have hnow : e.times ∈ timesHad handle (ops ++ [op]) :=
    mem_timesHad.mpr ⟨ops ++ [op], List.prefix_rfl, e, he, rfl⟩
  have hbefore : ∀ e' ∈ old, ∃ n ∈ timesHad handle (ops ++ [op]), e'.calls ≤ n := by
    intro e' he'
    obtain ⟨n, hn, hle⟩ := hold e' he'
    exact ⟨n, timesHad_subset_append handle ops [op] hn, hle⟩
  cases hbecomes with
  | registered _ => exact ⟨_, hnow, Nat.zero_le _⟩
  | kept => exact hbefore e rfl
  | @setTimes e' _ _ => exact hbefore e' rfl
  | called _ hlt => exact ⟨_, hnow, hlt⟩

/-- An expectation is expected as often as it was at its registration or as its own handle said. -/
theorem times_of_reached {ops : List Operation} {handle : Nat} {e : Expectation}
    (h : (reached ops).expectations[handle]? = some e) :
    e.times ∈ 1 :: ops.filterMap (Operation.timesFor? handle) := by
  refine holds_of_reached
    (P := fun ops e => e.times ∈ 1 :: ops.filterMap (Operation.timesFor? handle))
    (fun ops op old e hold hbecomes _ => ?_) h
  rw [List.filterMap_append, ← List.cons_append]
  cases hbecomes with
  | registered _ => exact List.mem_cons_self
  | kept => exact List.mem_append_left _ (hold e rfl)
  | setTimes hop =>
    rw [hop]
    exact List.mem_append_right _ (by simp [Operation.timesFor?])
  | @called e' _ _ => exact List.mem_append_left _ (hold e' rfl)

theorem timesHad_subset (handle : Nat) (ops : List Operation) :
    timesHad handle ops ⊆ 1 :: ops.filterMap (Operation.timesFor? handle) := by
  intro n hn
  obtain ⟨earlier, hearlier, e, he, rfl⟩ := mem_timesHad.mp hn
  exact List.cons_subset_cons 1 (hearlier.sublist.filterMap _).subset (times_of_reached he)

/-! ## Handles -/

theorem registered_reached (ops : List Operation) :
    (reached ops).registered = ops.filterMap Operation.registration? :=
  view_run registered Operation.registration? registered_carryOut ops empty

/-- **A handle keeps its place.**  Whatever is done later, the expectation in it has the id and the
answer that it was registered with; those registered earlier are before it and those registered
later are behind it. -/
theorem handle_denotes (earlier later : List Operation) (id : String) (r : Response) :
    ∃ (before : List Expectation) (e : Expectation) (behind : List Expectation),
      (reached (earlier ++ .expect id r :: later)).expectations = before ++ e :: behind ∧
      before.length = ((expect id r).run (reached earlier)).1 ∧
      before.map (fun e => (e.id, e.response)) = earlier.filterMap Operation.registration? ∧
      e.id = id ∧ e.response = r ∧
      behind.map (fun e => (e.id, e.response)) = later.filterMap Operation.registration? := by
  have hregistered : (reached (earlier ++ .expect id r :: later)).registered =
      earlier.filterMap Operation.registration? ++
        (id, r) :: later.filterMap Operation.registration? := by
    rw [registered_reached, List.filterMap_append]
    rfl
  obtain ⟨before, rest, hs, hbefore, hrest⟩ := List.map_eq_append_iff.mp hregistered
  obtain ⟨e, behind, rfl, he, hbehind⟩ := List.map_eq_cons_iff.mp hrest
  obtain ⟨hid, hresponse⟩ := Prod.mk.inj he
  have hlen : before.length = (reached earlier).expectations.length := by
    have hlen := congrArg List.length (hbefore.trans (registered_reached earlier).symm)
    simpa only [List.length_map, registered] using hlen
  exact ⟨before, e, behind, hs, hlen, hbefore, hid, hresponse, hbehind⟩

/-- Another number of times for a handle changes the expectation in its place and nothing else. -/
theorem run_setTimes_of_append {s : MockStore} {before behind : List Expectation} {e : Expectation}
    (h : s.expectations = before ++ e :: behind) (times : Nat) :
    ((setTimes before.length times).run s).2 =
      { s with expectations := before ++ { e with times := times } :: behind } := by
  rw [← modify_append_cons (fun e => { e with times := times }), ← h]
  rfl

/-! ## The ledger -/

/-- **The ledger balances.**  After any sequence of operations on a new stand-in

* every id was asked for as often as the expectations for it were called and as it was unexpected;
* the unexpected queries are some of the queries, in the same order, and together with the calls
  there are as many of them as there were queries;
* no expectation was called more often than the largest number of times that it has ever had; such a
  number is the one of its registration or was given by its own handle, so the calls can be counted
  in any type that these numbers are from;
* the handle that a registration gave is still the place of this expectation, behind those that were
  registered earlier and before those registered later, with the id and the answer it was registered
  with; another number of times for the handle is one for this expectation, and nothing else
  changes. -/
theorem ledger_balances (ops : List Operation) :
    let s := reached ops
    (∀ id, s.calls.count id =
        ((s.expectations.filter (·.id == id)).map Expectation.calls).sum +
          s.unexpected.count id) ∧
      s.unexpected <+ s.calls ∧
      s.calls.length = (s.expectations.map Expectation.calls).sum + s.unexpected.length ∧
      (∀ handle e, s.expectations[handle]? = some e →
        e.calls ≤ (timesHad handle ops).foldr max 0 ∧
        timesHad handle ops ⊆ 1 :: ops.filterMap (Operation.timesFor? handle) ∧
        ∀ limit, (∀ n ∈ 1 :: ops.filterMap (Operation.timesFor? handle), n ≤ limit) →
          e.calls ≤ limit) ∧
      ∀ earlier id r later, ops = earlier ++ .expect id r :: later →
        let handle := ((expect id r).run (reached earlier)).1
        ∃ before e behind, s.expectations = before ++ e :: behind ∧ before.length = handle ∧
          before.map (fun e => (e.id, e.response)) = earlier.filterMap Operation.registration? ∧
          e.id = id ∧ e.response = r ∧
          behind.map (fun e => (e.id, e.response)) = later.filterMap Operation.registration? ∧
          ∀ times, ((setTimes handle times).run s).2 =
            { s with expectations := before ++ { e with times := times } :: behind } := by
  intro s
  have hbalanced : s.Balanced := balanced_reached ops
  refine ⟨fun id => ?_, hbalanced.unexpected, ?_, fun handle e he => ?_,
    fun earlier id r later hops => ?_⟩
  · rw [hbalanced.calls.count_eq, List.count_append, count_entries]
  · rw [hbalanced.calls.length_eq, List.length_append, length_entries]
  · obtain ⟨n, hn, hle⟩ := exists_timesHad_of_reached he
    have hgiven := timesHad_subset handle ops
    exact ⟨List.le_max_of_le' 0 hn hle, hgiven, fun limit hlimit =>
      hle.trans (hlimit n (hgiven hn))⟩
  · intro handle
    obtain ⟨before, e, behind, hs, hhandle, hbefore, hid, hr, hbehind⟩ :=
      handle_denotes earlier later id r
    rw [← hops] at hs
    refine ⟨before, e, behind, hs, hhandle, hbefore, hid, hr, hbehind, fun times => ?_⟩
    have hplace : handle = before.length := hhandle.symm
    rw [hplace]
    exact run_setTimes_of_append hs times

/-- Two expectations for one id, the first lowered below its calls after it was used up, the second
raised and used up; and one for another id that is registered in between and expected not at all any
more.  Each handle changes its number of times once. -/
theorem ledger_of_lowered_times :
    let earlier : List Operation :=
      [.expect "a" (.count 1), .query "a", .expect "a" (.count 2), .setTimes 1 3, .query "a",
        .query "b"]
    let later : List Operation :=
      [.query "a", .setTimes 0 0, .query "a", .query "a", .setTimes 2 0, .query "b"]
    let ops := earlier ++ .expect "b" (.failure "down") :: later
    let s := reached ops
    let lowered : Expectation := ⟨"a", .count 1, 0, 1⟩
    let raised : Expectation := ⟨"a", .count 2, 3, 3⟩
    s.expectations[0]? = some lowered ∧ s.expectations[1]? = some raised ∧
      lowered.calls ≤ (timesHad 0 ops).foldr max 0 ∧
      ops.filterMap (Operation.timesFor? 0) = [0] ∧ lowered.calls ≤ 1 ∧
      ops.filterMap (Operation.timesFor? 1) = [3] ∧ raised.calls ≤ 3 ∧
      s.calls = ["a", "a", "b", "a", "a", "a", "b"] ∧ s.unexpected = ["b", "a", "b"] ∧
      s.calls.count "a" = 1 + 3 + 1 ∧
      ∃ before e behind, s.expectations = before ++ e :: behind ∧ before.length = 2 ∧
        e.response = .failure "down" := by
  intro earlier later ops s lowered raised
  -- the stand-in is computed once, and all that is said of it is read off
  have hs : s = ⟨[lowered, raised, ⟨"b", .failure "down", 0, 0⟩],
      ["a", "a", "b", "a", "a", "a", "b"], ["b", "a", "b"]⟩ := by decide +kernel
  have hlowered : s.expectations[0]? = some lowered := by
    rw [hs]
    rfl
  have hraised : s.expectations[1]? = some raised := by
    rw [hs]
    rfl
  obtain ⟨hcount, -, -, hcalls, hhandles⟩ := ledger_balances ops
  obtain ⟨before, e, behind, hsplit, hplace, -, -, hr, -⟩ :=
    hhandles earlier "b" (.failure "down") later rfl
  obtain ⟨hmost, -, hlimit⟩ := hcalls 0 lowered hlowered
  obtain ⟨-, -, hlimit'⟩ := hcalls 1 raised hraised
  have hasked : s.calls.count "a" = 1 + 3 + 1 := by
    rw [hcount "a", show reached ops = _ from hs]
    rfl
  exact ⟨hlowered, hraised, hmost, rfl, hlimit 1 (by decide), rfl, hlimit' 3 (by decide),
    congrArg MockStore.calls hs, congrArg MockStore.unexpected hs, hasked, before, e, behind,
    hsplit, hplace, hr⟩

end MockStore
end Roster
