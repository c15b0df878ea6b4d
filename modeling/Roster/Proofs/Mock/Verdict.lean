import Mathlib.Data.List.Induction
import Roster.Proofs.Mock.StandIn

/-!
# The verdict of a stand-in depends on counts alone

As long as everything that is expected for an id is settled before the id is asked for, a stand-in
can be judged by counting.  The expectations for an id share its queries in the order of their
registration: each takes as many as it can, and leaves the others to those behind it.  So it does
not matter in which order queries for different ids arrive.

* `total` — how many queries for an id some expectations ask for together.
* `allot` — expectations that have shared so many queries.  Serving one query more is sharing one
  more (`serve_allot`), and the calls have a closed form (`calls_of_getElem?_allot`).
* `surplus` — the queries beyond a limit for each id.
* `Settled` — everything for an id comes before its first query.
* `Shared` — the stand-in after settled operations.  Every operation keeps it (`Shared.carryOut`),
  and so does every sequence of them (`Shared.run`).
* `verdict_follows_from_counts` — what a stand-in finds after any session.
-/

set_option autoImplicit false

namespace Roster
namespace MockStore

/-! ## Shares -/

/-- How many queries for an id an expectation asks for. -/
def demand (e : Expectation) (id : String) : Nat := if e.id = id then e.times else 0

/-- How many queries for an id expectations ask for together. -/
def total (id : String) : List Expectation → Nat
  | [] => 0
  | e :: es => demand e id + total id es

/-- Expectations that have shared the queries for each id: every one takes as many as it can of
those that the ones before it left. -/
def allot (asked : String → Nat) : List Expectation → List Expectation
  | [] => []
  | e :: es =>
    { e with calls := min e.times (asked e.id) } :: allot (fun id => asked id - demand e id) es

/-- One query more for an id. -/
def oneMore (asked : String → Nat) (id : String) : String → Nat :=
  fun id' => asked id' + if id' = id then 1 else 0

theorem demand_self (e : Expectation) : demand e e.id = e.times := if_pos rfl

theorem demand_of_ne {e : Expectation} {id : String} (h : e.id ≠ id) : demand e id = 0 := if_neg h

theorem total_append (id : String) (es es' : List Expectation) :
    total id (es ++ es') = total id es + total id es' := by
  induction es with
  | nil => rw [List.nil_append, total, Nat.zero_add]
  | cons e es ih => rw [List.cons_append, total, total, ih, Nat.add_assoc]

/-- Sharing queries changes nothing but the calls. -/
theorem total_allot (asked : String → Nat) (id : String) (es : List Expectation) :
    total id (allot asked es) = total id es := by
  induction es generalizing asked with
  | nil => rfl
  | cons e es ih =>
    rw [allot, total, total, ih]
    rfl

theorem map_allot {β : Type} {f : Expectation → β}
    (hf : ∀ (e : Expectation) (calls : Nat), f { e with calls := calls } = f e)
    (asked : String → Nat) (es : List Expectation) : (allot asked es).map f = es.map f := by
  induction es generalizing asked with
  | nil => rfl
  | cons e es ih => rw [allot, List.map_cons, List.map_cons, ih, hf]

theorem allot_append (asked : String → Nat) (es : List Expectation) (e : Expectation) :
    allot asked (es ++ [e]) =
      allot asked es ++ [{ e with calls := min e.times (asked e.id - total e.id es) }] := by
  induction es generalizing asked with
  | nil => rfl
  | cons first es ih =>
    rw [List.cons_append, allot, allot, ih, List.cons_append, total, Nat.sub_sub]

/-- **The calls of an expectation**: as many as it was expected, of the queries that those
registered before it left. -/
theorem calls_of_getElem?_allot {asked : String → Nat} {es : List Expectation} {k : Nat}
    {e : Expectation} (h : (allot asked es)[k]? = some e) :
    e.calls = min e.times (asked e.id - total e.id ((allot asked es).take k)) := by
  induction es generalizing asked k with
  | nil => simp [allot] at h
  | cons first es ih =>
    cases k with
    | zero =>
      obtain rfl := Option.some.inj h
      rfl
    | succ k =>
      have hrest := ih (by simpa [allot] using h)
      rw [hrest, allot, List.take_succ_cons, total, Nat.sub_sub]
      rfl

/-- **Serving one query more is sharing one more.**  If not all that is expected for the id has been
asked for, the shares become those of one query more; otherwise nobody takes the query. -/
theorem serve_allot (id : String) (asked : String → Nat) (es : List Expectation) :
    match serve id (allot asked es) with
    | some (_, es') => asked id < total id es ∧ es' = allot (oneMore asked id) es
    | none => total id es ≤ asked id ∧ allot (oneMore asked id) es = allot asked es := by
  induction es generalizing asked with
  | nil => exact ⟨Nat.zero_le _, rfl⟩
  | cons e es ih =>
    rw [allot, serve, total]
    by_cases hserves : e.id = id ∧ asked id < e.times
    · obtain ⟨rfl, hlt⟩ := hserves
      -- `e` takes the query, so nothing of it is left for those behind
      have hanswers : ({ e with calls := min e.times (asked e.id) } : Expectation).answers e.id =
          true :=
        Expectation.answers_iff.mpr ⟨rfl, Nat.lt_of_le_of_lt (Nat.min_le_right _ _) hlt⟩
      have hbehind : (fun id => oneMore asked e.id id - demand e id) =
          fun id => asked id - demand e id := by
        funext id
        rw [oneMore, demand]
        grind
      rw [if_pos hanswers, demand_self]
      refine ⟨by omega, ?_⟩
      rw [allot, hbehind, oneMore, if_pos rfl]
      congr 2
      show min e.times (asked e.id) + 1 = _
      omega
    · -- `e` has no answer left, so those behind get the query
      have hpasses : ¬ ({ e with calls := min e.times (asked e.id) } : Expectation).answers id =
          true := by
        intro hanswers
        obtain ⟨rfl, hlt⟩ : e.id = id ∧ min e.times (asked e.id) < e.times :=
          Expectation.answers_iff.mp hanswers
        exact hserves ⟨rfl, by omega⟩
      have hbehind : (fun id' => oneMore asked id id' - demand e id') =
          oneMore (fun id => asked id - demand e id) id := by
        funext id'
        rw [oneMore, oneMore, demand]
        grind
      have hsame : min e.times (oneMore asked id e.id) = min e.times (asked e.id) := by
        rw [oneMore]
        grind
      have hle : demand e id ≤ asked id := by
        rw [demand]
        grind
      have htail := ih fun id => asked id - demand e id
      rw [if_neg hpasses, allot, hsame, hbehind]
      cases hserve : serve id (allot (fun id => asked id - demand e id) es) with
      | none =>
        rw [hserve] at htail
        obtain ⟨htotal, hrest⟩ := htail
        exact ⟨by omega, by rw [hrest]⟩
      | some served =>
        rw [hserve] at htail
        obtain ⟨htotal, hrest⟩ := htail
        exact ⟨by omega, by rw [hrest]⟩

/-! ## Queries beyond a limit -/

/-- The queries that came when there had been as many for their id as the limit allows. -/
def surplus (limit : String → Nat) (ids : List String) : List String :=
  (ids.zipIdx.filter fun (id, k) => limit id ≤ (ids.take k).count id).map Prod.fst

theorem surplus_append_singleton (limit : String → Nat) (ids : List String) (id : String) :
    surplus limit (ids ++ [id]) =
      surplus limit ids ++ if limit id ≤ ids.count id then [id] else [] := by
  have hearlier : ids.zipIdx.filter (fun (id', k) =>
        decide (limit id' ≤ ((ids ++ [id]).take k).count id')) =
      ids.zipIdx.filter fun (id', k) => decide (limit id' ≤ (ids.take k).count id') := by
    refine List.filter_congr fun ⟨id', k⟩ hmem => ?_
    have hk : k < ids.length := by simpa using (List.mem_zipIdx hmem).2.1
    simp only [List.take_append_of_le_length (Nat.le_of_lt hk)]
  rw [surplus, surplus, List.zipIdx_append, List.filter_append, List.map_append, hearlier]
  congr 1
  by_cases h : limit id ≤ ids.count id <;> simp [h]

theorem surplus_congr {limit limit' : String → Nat} {ids : List String}
    (h : ∀ id ∈ ids, limit id = limit' id) : surplus limit ids = surplus limit' ids := by
  refine congrArg _ (List.filter_congr fun ⟨id, k⟩ hmem => ?_)
  simp only [h id (List.fst_mem_of_mem_zipIdx hmem)]

/-- There are as many queries beyond the limit as the queries exceed it. -/
theorem count_surplus (limit : String → Nat) (ids : List String) (id : String) :
    (surplus limit ids).count id = ids.count id - limit id := by
  induction ids using List.reverseRecOn with
  | nil => exact (Nat.zero_sub _).symm
  | append_singleton ids last ih =>
    rw [surplus_append_singleton, List.count_append, List.count_append, ih, List.count_singleton]
    by_cases hid : last = id
    · subst hid
      simp only [beq_self_eq_true, if_true]
      split
      · rw [List.count_singleton_self]
        omega
      · rw [List.count_nil]
        omega
    · have hnone : (if limit last ≤ ids.count last then [last] else []).count id = 0 := by
        split
        · exact List.count_singleton.trans (if_neg (by simpa using hid))
        · exact List.count_nil
      rw [hnone, if_neg (by simpa using hid), Nat.add_zero, Nat.add_zero]

/-! ## Settled operations -/

namespace Operation

/-- The id that an operation settles something for, given what is registered in the order of the
handles. -/
def settles? (registered : List (String × Response)) : Operation → Option String
  | expect id _ => some id
  | setTimes handle _ => registered[handle]?.map Prod.fst
  | query _ => none

end Operation

/-- For every id, all that is expected is settled before the first query.  Otherwise the operations
for different ids may be mixed in any way. -/
def Settled (ops : List Operation) : Prop :=
  ops.Pairwise fun first later => ∀ id ∈ first.query?,
    later.settles? (ops.filterMap Operation.registration?) ≠ some id

instance (ops : List Operation) : Decidable (Settled ops) :=
  inferInstanceAs (Decidable (ops.Pairwise _))

/-- The operations that are no queries. -/
def preparations (ops : List Operation) : List Operation :=
  ops.filter fun op => op.query?.isNone

/-- What is expected after operations, whatever is asked for meanwhile. -/
def planned (ops : List Operation) : List Expectation := (reached (preparations ops)).expectations

theorem Settled.of_append {ops more : List Operation} (h : Settled (ops ++ more)) :
    Settled ops := by
  refine (List.pairwise_append.mp h).1.imp fun {first later} hpair id hfirst hlater => ?_
  -- a handle that denotes an expectation keeps denoting it
  refine hpair id hfirst ?_
  cases later with
  | expect id' r => exact hlater
  | setTimes handle times =>
    rw [Operation.settles?, Option.map_eq_some_iff] at hlater ⊢
    obtain ⟨e, he, hid⟩ := hlater
    rw [List.filterMap_append]
    exact ⟨e, List.getElem?_append_left (List.getElem?_eq_some_iff.mp he).1 ▸ he, hid⟩
  | query id' => exact hlater

/-- Nothing was asked for an id that something is settled for. -/
theorem Settled.not_mem {ops : List Operation} {op : Operation} (h : Settled (ops ++ [op]))
    {id : String}
    (hop : op.settles? ((ops ++ [op]).filterMap Operation.registration?) = some id) :
    id ∉ ops.filterMap Operation.query? := by
  intro hmem
  obtain ⟨first, hfirst, hid⟩ := List.mem_filterMap.mp hmem
  exact (List.pairwise_append.mp h).2.2 first hfirst op List.mem_cons_self id hid hop

theorem planned_append_of_none {op : Operation} (h : op.query? = none) (ops : List Operation) :
    planned (ops ++ [op]) = (op.carryOut.run (reached (preparations ops))).2.expectations := by
  rw [planned, preparations, List.filter_append, List.filter_cons_of_pos (by rw [h]; rfl),
    List.filter_nil, reached_append_singleton]
  rfl

theorem planned_append_query (ops : List Operation) (id : String) :
    planned (ops ++ [.query id]) = planned ops := by
  rw [planned, preparations, List.filter_append,
    List.filter_cons_of_neg (by simp [Operation.query?]), List.filter_nil, List.append_nil]
  rfl

/-- What is planned is what was registered. -/
theorem map_planned (ops : List Operation) :
    (planned ops).map (fun e => (e.id, e.response)) =
      ops.filterMap Operation.registration? := by
  refine (view_run registered Operation.registration? registered_carryOut _ empty).trans ?_
  rw [preparations, List.filterMap_filter]
  refine (List.nil_append _).trans (congrArg (List.filterMap · ops) (funext fun op => ?_))
  cases op <;> rfl

/-! ## Sharing, operation by operation -/

/-- A number of times may be changed before or after sharing, if there was nothing to share. -/
theorem allot_modify {asked : String → Nat} {es : List Expectation} {k : Nat}
    (h : ∀ e, es[k]? = some e → asked e.id = 0) (times : Nat) :
    allot asked (es.modify k fun e => { e with times := times }) =
      (allot asked es).modify k fun e => { e with times := times } := by
  induction es generalizing asked k with
  | nil => rw [List.modify_nil, allot, List.modify_nil]
  | cons e es ih =>
    cases k with
    | zero =>
      have hnone : asked e.id = 0 := h e rfl
      have hbehind (times : Nat) :
          (fun id => asked id - demand { e with times := times } id) = asked := by
        funext id
        rw [demand]
        grind
      rw [List.modify_zero_cons, allot, allot, List.modify_zero_cons, hbehind times,
        show (fun id => asked id - demand e id) = asked from hbehind e.times, hnone,
        Nat.min_zero, Nat.min_zero]
    | succ k =>
      rw [List.modify_succ_cons, allot, allot, List.modify_succ_cons, ih]
      intro e' he'
      have hnone : asked e'.id = 0 := h e' he'
      rw [hnone, Nat.zero_sub]

theorem total_modify {es : List Expectation} {k : Nat} {id : String}
    (h : ∀ e, es[k]? = some e → e.id ≠ id) (times : Nat) :
    total id (es.modify k fun e => { e with times := times }) = total id es := by
  induction es generalizing k with
  | nil => rw [List.modify_nil]
  | cons e es ih =>
    cases k with
    | zero =>
      have hne : e.id ≠ id := h e rfl
      rw [List.modify_zero_cons, total, total, demand_of_ne hne]
      exact congrArg (· + _) (demand_of_ne hne)
    | succ k =>
      rw [List.modify_succ_cons, total, total, ih]
      exact h

/-- The stand-in after settled operations: the expectations share the queries, and those beyond
what was expected are the unexpected ones. -/
structure Shared (ops : List Operation) (s : MockStore) : Prop where
  /-- The expectations are those that were planned, with their shares of the queries. -/
  expectations : s.expectations =
    allot (fun id => (ops.filterMap Operation.query?).count id) (planned ops)
  /-- Whatever was asked for beyond the plan is noted. -/
  unexpected : s.unexpected =
    surplus (fun id => total id (planned ops)) (ops.filterMap Operation.query?)

theorem Shared.empty : Shared [] MockStore.empty := ⟨rfl, rfl⟩

theorem asked_append_query (ops : List Operation) (id : String) :
    (ops ++ [Operation.query id]).filterMap Operation.query? =
      ops.filterMap Operation.query? ++ [id] :=
  List.filterMap_append

theorem asked_append_of_none {op : Operation} (h : op.query? = none) (ops : List Operation) :
    (ops ++ [op]).filterMap Operation.query? = ops.filterMap Operation.query? := by
  rw [List.filterMap_append, List.filterMap_cons_none h, List.filterMap_nil, List.append_nil]

theorem Shared.expect {ops : List Operation} {s : MockStore} (h : Shared ops s) {id : String}
    {r : Response} (hsettled : Settled (ops ++ [.expect id r])) :
    Shared (ops ++ [.expect id r]) ((MockStore.expect id r).run s).2 := by
  have hnot : id ∉ ops.filterMap Operation.query? := hsettled.not_mem rfl
  have hplanned : planned (ops ++ [.expect id r]) = planned ops ++ [⟨id, r, 1, 0⟩] :=
    planned_append_of_none rfl ops
  constructor
  · rw [hplanned, asked_append_of_none rfl, allot_append, ← h.expectations,
      List.count_eq_zero.mpr hnot, Nat.zero_sub, Nat.min_zero]
    rfl
  · rw [hplanned, asked_append_of_none rfl]
    refine h.unexpected.trans (surplus_congr fun id' hmem => ?_)
    have hne : id ≠ id' := fun heq => hnot (heq ▸ hmem)
    rw [total_append, total, total, demand_of_ne hne]
    rfl

theorem Shared.setTimes {ops : List Operation} {s : MockStore} (h : Shared ops s)
    {handle times : Nat} (hsettled : Settled (ops ++ [.setTimes handle times])) :
    Shared (ops ++ [.setTimes handle times]) ((MockStore.setTimes handle times).run s).2 := by
  have hnot : ∀ e, (planned ops)[handle]? = some e →
      e.id ∉ ops.filterMap Operation.query? := by
    intro e he
    refine hsettled.not_mem ?_
    rw [Operation.settles?, ← map_planned, planned_append_of_none rfl]
    show Option.map Prod.fst (List.map _ (List.modify (planned ops) handle _))[handle]? = _
    simp [he]
  have hplanned : planned (ops ++ [.setTimes handle times]) =
      (planned ops).modify handle fun e => { e with times := times } :=
    planned_append_of_none rfl ops
  constructor
  · rw [hplanned, asked_append_of_none rfl,
      allot_modify fun e he => List.count_eq_zero.mpr (hnot e he), ← h.expectations]
    rfl
  · rw [hplanned, asked_append_of_none rfl]
    refine h.unexpected.trans (surplus_congr fun id hmem => ?_)
    exact (total_modify (fun e he heq => hnot e he (heq ▸ hmem)) times).symm

theorem Shared.query {ops : List Operation} {s : MockStore} (h : Shared ops s) (id : String) :
    Shared (ops ++ [.query id]) ((repository.countMatching id).run s).2 := by
  have hasked : (fun id' => (ops.filterMap Operation.query? ++ [id]).count id') =
      oneMore (fun id' => (ops.filterMap Operation.query?).count id') id := by
    funext id'
    rw [oneMore, List.count_append, List.count_singleton]
    grind
  have hserve := serve_allot id (fun id => (ops.filterMap Operation.query?).count id) (planned ops)
  rw [← h.expectations] at hserve
  cases hserved : serve id s.expectations with
  | none =>
    rw [hserved] at hserve
    obtain ⟨htotal, hshares⟩ := hserve
    constructor
    · rw [run_query_of_none hserved, planned_append_query, asked_append_query]
      exact (congrArg (allot · _) hasked ▸ hshares).symm
    · rw [run_query_of_none hserved, planned_append_query, asked_append_query,
        surplus_append_singleton, if_pos htotal, ← h.unexpected]
  | some served =>
    obtain ⟨r, es⟩ := served
    rw [hserved] at hserve
    obtain ⟨htotal, hshares⟩ := hserve
    have hnot : ¬ total id (planned ops) ≤ (ops.filterMap Operation.query?).count id :=
      Nat.not_le_of_lt htotal
    constructor
    · rw [run_query_of_serve hserved, planned_append_query, asked_append_query]
      exact hshares.trans (congrArg (allot · _) hasked).symm
    · rw [run_query_of_serve hserved, planned_append_query, asked_append_query,
        surplus_append_singleton, if_neg hnot,
        List.append_nil]
      exact h.unexpected

/-- **Every operation keeps the shares**, as long as everything is settled in time. -/
theorem Shared.carryOut {ops : List Operation} {op : Operation} {s : MockStore}
    (h : Shared ops s) (hsettled : Settled (ops ++ [op])) :
    Shared (ops ++ [op]) (op.carryOut.run s).2 := by
  cases op with
  | expect id r => exact h.expect hsettled
  | setTimes handle times => exact h.setTimes hsettled
  | query id => exact h.query id

/-- **So does every sequence of operations.** -/
theorem Shared.run {ops more : List Operation} {s : MockStore} (h : Shared ops s)
    (hsettled : Settled (ops ++ more)) :
    Shared (ops ++ more) ((more.mapM Operation.carryOut).run s).2 := by
  induction more generalizing ops s with
  | nil => rwa [List.append_nil, run_mapM_nil]
  | cons op more ih =>
    rw [List.append_cons] at hsettled ⊢
    rw [run_mapM_cons]
    exact ih (h.carryOut hsettled.of_append) hsettled

/-! ## The verdict -/

/-- The expectations are met by the queries they share if every id was asked for as often as they
ask for it together. -/
theorem allot_met_iff {asked : String → Nat} {es : List Expectation} :
    (∀ e ∈ allot asked es, e.calls = e.times) ↔ ∀ id, total id es ≤ asked id := by
  induction es generalizing asked with
  | nil => simp [allot, total]
  | cons e es ih =>
    rw [allot, List.forall_mem_cons, ih]
    show min e.times (asked e.id) = e.times ∧ _ ↔ _
    constructor
    · rintro ⟨hself, hbehind⟩ id
      have hid := hbehind id
      rw [total]
      by_cases heq : e.id = id
      · subst heq
        rw [demand_self] at hid ⊢
        omega
      · rw [demand_of_ne heq] at hid ⊢
        omega
    · intro h
      refine ⟨?_, fun id => ?_⟩
      · have hself := h e.id
        rw [total, demand_self] at hself
        omega
      · have hid := h id
        rw [total] at hid
        omega

theorem surplus_eq_nil_iff {limit : String → Nat} {ids : List String} :
    surplus limit ids = [] ↔ ∀ id, ids.count id ≤ limit id := by
  rw [List.eq_nil_iff_forall_not_mem]
  refine forall_congr' fun id => ?_
  rw [← List.count_eq_zero, count_surplus]
  omega

/-- **The expectations are met exactly if the counts agree.** -/
theorem Shared.assess_eq_met_iff {ops : List Operation} {s : MockStore} (h : Shared ops s) :
    s.assess = .met ↔
      ∀ id, (ops.filterMap Operation.query?).count id = total id s.expectations := by
  rw [MockStore.assess_eq_met_iff, h.unexpected, h.expectations, surplus_eq_nil_iff, allot_met_iff,
    ← forall_and]
  refine forall_congr' fun id => ?_
  rw [total_allot, Nat.le_antisymm_iff]

/-- What a stand-in that nothing unexpected was asked names when it is not content. -/
theorem assess_of_unmet {s : MockStore} (hnone : s.unexpected = []) (h : s.assess ≠ .met) :
    ∃ before e after, s.expectations = before ++ e :: after ∧
      (∀ b ∈ before, b.calls = b.times) ∧ e.calls ≠ e.times ∧
      s.assess = .unmet e.id e.times e.calls := by
  rw [assess, if_neg (not_not_intro hnone)] at h ⊢
  cases hfind : s.expectations.find? fun e => e.calls != e.times with
  | none =>
    rw [hfind] at h
    exact absurd rfl h
  | some e =>
    obtain ⟨hne, before, after, hes, hbefore⟩ := List.find?_eq_some_iff_append.mp hfind
    have hall : ∀ b ∈ before, b.calls = b.times := fun b hb => by simpa using hbefore b hb
    exact ⟨before, e, after, hes, hall, by simpa using hne, rfl⟩

/-! ## Sessions -/

/-- What a step of a session does with the stand-in, if it does anything. -/
def operation? : Step Command → Option Operation
  | .ask q => q.query?.map .query
  | .count id => some (.query id)
  | .command (.expect id response) => some (.expect id response)
  | .command (.setTimes handle times) => some (.setTimes handle times)
  | .config | .command .calls | .command .assess => none

theorem query?_of_operation? (step : Step Command) :
    (operation? step).bind Operation.query? = step.query? := by
  cases step with
  | ask q =>
    rw [operation?, Step.query?]
    cases q.query? <;> rfl
  | count id => rfl
  | config => rfl
  | command c => cases c <;> rfl

theorem filterMap_query?_of_operation? (steps : List (Step Command)) :
    (steps.filterMap operation?).filterMap Operation.query? = steps.filterMap Step.query? := by
  rw [List.filterMap_filterMap]
  exact congrArg (List.filterMap · steps) (funext query?_of_operation?)

section Steps

variable (holding : Holding) (config : RuleConfig)

theorem state_step (step : Step Command) (s : MockStore) :
    (((session holding config).step step).run (Traced.ofState s)).2.state =
      (((operation? step).toList.mapM Operation.carryOut).run s).2 := by
  cases step with
  | ask q =>
    rw [operation?]
    cases hq : q.query? with
    | none => rw [Session.run_ask_of_none _ hq]; rfl
    | some id => rw [Session.run_ask_of_some _ hq]; rfl
  | count id => rfl
  | config => rfl
  | command c => cases c <;> rfl

/-- A session leaves what its operations leave. -/
theorem state_run (steps : List (Step Command)) (s : MockStore) :
    ((session holding config).run steps s).2 =
      (((steps.filterMap operation?).mapM Operation.carryOut).run s).2 := by
  induction steps generalizing s with
  | nil => rfl
  | cons first rest ih =>
    have hops : (first :: rest).filterMap operation? =
        (operation? first).toList ++ rest.filterMap operation? := by
      rw [List.filterMap_cons]
      cases operation? first <;> rfl
    rw [Session.run_cons, hops, run_mapM_append]
    simp only [ih, state_step]

theorem shared_run {steps : List (Step Command)} (h : Settled (steps.filterMap operation?)) :
    Shared (steps.filterMap operation?) ((session holding config).run steps empty).2 := by
  rw [state_run]
  exact Shared.empty.run h

end Steps

/-- **The verdict follows from counts.**  Take any session on a new stand-in in which everything
that is expected for an id is settled before the id is asked for.  After it

* the stand-in expects what was settled, whatever it was asked for meanwhile;
* every expectation was called as often as it is expected to be, as far as the queries for its id
  go that those registered before it for this id leave;
* the unexpected queries are, in order, those that came when their id had been asked for as often
  as it is expected to be in all;
* the expectations are met exactly if every id was asked for as often as it is expected to be; if
  not, the stand-in names the unexpected queries, or if there are none the first expectation that
  was not called as often as it should have been, with both numbers; and it stays as it is;
* another such session with the same preparations, in which the same queries come in any other
  order, leaves the same expectations with the same calls and the same unexpected queries in some
  order, and its expectations are met exactly if those of the first one are. -/
theorem verdict_follows_from_counts (holding : Holding) (config : RuleConfig)
    (steps : List (Step Command)) (h : Settled (steps.filterMap operation?)) :
    let session := session holding config
    let ops := steps.filterMap operation?
    let asked := steps.filterMap Step.query?
    let s := (session.run steps empty).2
    let expected := fun id => total id s.expectations
    s.expectations.map (fun e => (e.id, e.response, e.times)) =
        (planned ops).map (fun e => (e.id, e.response, e.times)) ∧
      (∀ k e, s.expectations[k]? = some e →
        e.calls = min e.times (asked.count e.id - total e.id (s.expectations.take k))) ∧
      s.unexpected = surplus expected asked ∧
      (∃ verdict, session.Takes empty steps (.command .assess)
          (.outcome (.assessment verdict)) [] s ∧
        (verdict = .met ↔ ∀ id, asked.count id = expected id) ∧
        (s.unexpected ≠ [] → verdict = .unexpected s.unexpected ∧
          verdict.complaint? = some ("unexpected count_matching_id calls: " ++
            Text.quotedList s.unexpected)) ∧
        (s.unexpected = [] → verdict ≠ .met → ∃ before e after,
          s.expectations = before ++ e :: after ∧ (∀ b ∈ before, b.calls = b.times) ∧
          e.calls ≠ e.times ∧ verdict = .unmet e.id e.times e.calls ∧
          verdict.complaint? =
            some ("assertion `left == right` failed: count_matching_id(" ++ Text.quoted e.id ++
              ") expected " ++ toString e.times ++ " call(s), got " ++ toString e.calls ++
              "\n  left: " ++ toString e.calls ++ "\n right: " ++ toString e.times))) ∧
      ∀ steps' : List (Step Command), Settled (steps'.filterMap operation?) →
        preparations (steps'.filterMap operation?) = preparations ops →
        (steps'.filterMap Step.query?).Perm asked →
        let s' := (session.run steps' empty).2
        s'.expectations = s.expectations ∧ s'.unexpected.Perm s.unexpected ∧
          (s'.assess = .met ↔ s.assess = .met) := by
  intro session ops asked s expected
  have hshared : Shared ops s := shared_run holding config h
  have hasked : ops.filterMap Operation.query? = asked := filterMap_query?_of_operation? steps
  have hexpectations : s.expectations = allot (fun id => asked.count id) (planned ops) := by
    rw [← hasked]
    exact hshared.expectations
  have hexpected : expected = fun id => total id (planned ops) := by
    funext id
    rw [← total_allot (fun id => asked.count id), ← hexpectations]
  have hunexpected : s.unexpected = surplus expected asked := by
    rw [hexpected, ← hasked]
    exact hshared.unexpected
  refine ⟨?_, fun k e he => ?_, hunexpected, ⟨s.assess, session.takes_of_step rfl rfl, ?_,
    fun hsome => ?_, fun hnone hunmet => ?_⟩, fun steps' h' hsame hperm => ?_⟩
  · rw [hexpectations, map_allot fun _ _ => rfl]
  · rw [hexpectations] at he ⊢
    exact calls_of_getElem?_allot he
  · rw [← hasked]
    exact hshared.assess_eq_met_iff
  · have hassess : s.assess = .unexpected s.unexpected := if_pos hsome
    rw [hassess]
    exact ⟨rfl, rfl⟩
  · obtain ⟨before, e, after, hes, hbefore, hne, hassess⟩ := assess_of_unmet hnone hunmet
    rw [hassess]
    exact ⟨before, e, after, hes, hbefore, hne, rfl, rfl⟩
  · intro s'
    have hshared' := shared_run holding config h'
    have hplanned : planned (steps'.filterMap operation?) = planned ops := by
      rw [planned, planned, hsame]
    have hcount : (fun id => (steps'.filterMap Step.query?).count id) = fun id => asked.count id :=
      funext fun id => hperm.count_eq id
    have hexpectations' : s'.expectations = s.expectations := by
      rw [hexpectations, hshared'.expectations, filterMap_query?_of_operation?, hplanned, hcount]
    refine ⟨hexpectations', ?_, ?_⟩
    · rw [hunexpected, hexpected, hshared'.unexpected, filterMap_query?_of_operation?, hplanned,
        List.perm_iff_count]
      intro id
      rw [count_surplus, count_surplus, hperm.count_eq id]
    · rw [hshared.assess_eq_met_iff, hshared'.assess_eq_met_iff, filterMap_query?_of_operation?,
        hexpectations', hasked]
      exact forall_congr' fun id => by rw [hperm.count_eq id]

/-- Two ids whose queries are mixed; one of them is expected to be asked for by two expectations,
and the other not at all. -/
theorem verdict_of_mixed_queries :
    let steps : List (Step Command) := [.command (.expect "a" (.count 1)),
      .command (.expect "b" (.count 0)), .command (.setTimes 1 0), .count "b",
      .command (.expect "a" (.failure "down")), .command (.setTimes 0 2),
      .ask (.rule .unique (Account.withId "a")), .command .assess, .count "a", .count "b",
      .ask (.validateNew (Account.withId "a")), .count "a"]
    let s := ((session .direct ⟨1⟩).run steps empty).2
    Settled (steps.filterMap operation?) ∧ s.expectations.map Expectation.calls = [2, 0, 1] ∧
      surplus (fun id => total id s.expectations) (steps.filterMap Step.query?) =
        ["b", "b", "a"] ∧
      s.unexpected =
        surplus (fun id => total id s.expectations) (steps.filterMap Step.query?) := by
  intro steps s
  have h : Settled (steps.filterMap operation?) := by decide
  exact ⟨h, by decide, by decide, (verdict_follows_from_counts .direct ⟨1⟩ steps h).2.2.1⟩

end MockStore
end Roster
