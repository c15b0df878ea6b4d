import Roster.Proofs.Memory.Step
import Roster.Proofs.Mock.Queues
import Roster.Proofs.Session.Replay
import Roster.Store.Scripted

/-!
# Standing in for the store in memory

A session on the store in memory can be repeated without it.  It is enough to know the queries that
the store got and the counts it answered: a stand-in that expects these queries in this order gives
the same counts, even where an id was asked for again and its count had changed, and so does one
that reads the counts off a script.

* `MockStore.run_queries_of_pending` — a stand-in whose queues are what a list of queries calls for
  answers the list and has nothing left.
* `MockStore.Sparing` — no expectation was called too often.  Every query keeps it, and with nothing
  left the expectations are then met (`MockStore.assess_of_exhausted`).
* `ScriptedStore.run_queries` — a script answers as many queries as it is long.
* `stand_ins_replay_sessions` — a session on the store in memory, replayed over both.
-/

set_option autoImplicit false

namespace Roster

namespace MockStore

/-- A session on the stand-in. -/
def session (holding : Holding) (config : RuleConfig) : Session MockStore Command Outcome :=
  ⟨repository, holding, config, perform⟩

/-! ## Registering queries -/

/-- The steps that register queries with their answers, one after the other. -/
def registering (queries : List (String × Response)) : List (Step Command) :=
  queries.map fun (id, r) => .command (.expect id r)

/-- The stand-in that expects queries in their order, and was not asked yet. -/
def expecting (queries : List (String × Response)) : MockStore :=
  ⟨queries.map fun (id, r) => ⟨id, r, 1, 0⟩, [], []⟩

theorem run_registering (holding : Holding) (config : RuleConfig)
    (queries : List (String × Response)) (s : MockStore) :
    ((session holding config).run (registering queries) s).2 =
      { s with expectations := s.expectations ++ (expecting queries).expectations } := by
  induction queries generalizing s with
  | nil =>
    rw [expecting, List.map_nil, List.append_nil]
    rfl
  | cons first rest ih =>
    rw [registering, List.map_cons, Session.run_cons]
    refine (ih _).trans ?_
    show ({ s with expectations := (s.expectations ++ [⟨first.1, first.2, 1, 0⟩]) ++
      (expecting rest).expectations } : MockStore) = _
    rw [List.append_assoc]
    rfl

/-- The queue of an id has the answers to its queries. -/
theorem pending_expecting (queries : List (String × Response)) (id : String) :
    (expecting queries).pending id = (queries.filter (·.1 == id)).map Prod.snd := by
  induction queries with
  | nil => rfl
  | cons first rest ih =>
    rw [pending, expecting] at ih ⊢
    rw [List.map_cons, queue_cons, ih, List.filter_cons]
    by_cases hid : first.1 = id
    · rw [if_pos hid, if_pos (beq_iff_eq.mpr hid)]
      rfl
    · rw [if_neg hid, if_neg (by simpa using hid), List.nil_append]

/-! ## Answering queries -/

/-- **A stand-in answers the queries that its queues are for**, in whatever way the queries for
different ids are mixed, and has nothing left then. -/
theorem run_queries_of_pending {queries : List (String × Response)} {s : MockStore}
    (h : ∀ id, s.pending id = (queries.filter (·.1 == id)).map Prod.snd) :
    let asked := ((queries.map Prod.fst).mapM repository.countMatching).run s
    asked.1 = queries.map (·.2.answer) ∧ (∀ id, asked.2.pending id = []) ∧
      asked.2.calls = s.calls ++ queries.map Prod.fst ∧ asked.2.unexpected = s.unexpected := by
  induction queries generalizing s with
  | nil => exact ⟨rfl, h, (List.append_nil _).symm, rfl⟩
  | cons first rest ih =>
    obtain ⟨id, r⟩ := first
    have hhead : s.pending id = r :: (rest.filter (·.1 == id)).map Prod.snd := by
      rw [h, List.filter_cons, if_pos (beq_self_eq_true id), List.map_cons]
    obtain ⟨hanswer, hself, hother, hcalls, hunexpected⟩ := run_query_of_cons hhead
    -- the queue of `id` lost its head, and the others are those of the later queries already
    have hrest : ∀ id', ((repository.countMatching id).run s).2.pending id' =
        (rest.filter (·.1 == id')).map Prod.snd := by
      intro id'
      by_cases hid : id' = id
      · rw [hid, hself]
      · rw [hother id' hid, h, List.filter_cons, if_neg (by simpa using Ne.symm hid)]
    obtain ⟨hanswers, hnothing, hallcalls, hallunexpected⟩ := ih hrest
    rw [List.map_cons, run_mapM_cons]
    refine ⟨?_, hnothing, ?_, hallunexpected.trans hunexpected⟩
    · rw [List.map_cons, ← hanswers, ← hanswer]
    · rw [hallcalls, hcalls, List.append_assoc]
      rfl

/-- No expectation was called more often than it should be. -/
def Sparing (s : MockStore) : Prop := ∀ e ∈ s.expectations, e.calls ≤ e.times

theorem Sparing.expecting (queries : List (String × Response)) :
    Sparing (MockStore.expecting queries) := by
  intro e he
  obtain ⟨q, -, rfl⟩ := List.mem_map.mp he
  exact Nat.zero_le 1

/-- **A query calls an expectation that still has an answer**, so none is called too often. -/
theorem Sparing.query {s : MockStore} (h : s.Sparing) (id : String) :
    ((repository.countMatching id).run s).2.Sparing := by
  cases hserve : serve id s.expectations with
  | none =>
    rw [run_query_of_none hserve]
    exact h
  | some served =>
    obtain ⟨r, es⟩ := served
    rw [run_query_of_serve hserve]
    obtain ⟨before, e, after, hes, -, hanswers, -, rfl⟩ := serve_eq_some hserve
    have hlt : e.calls < e.times := (Expectation.answers_iff.mp hanswers).2
    intro e' he'
    rcases List.mem_append.mp he' with hbefore | hrest
    · exact h e' (hes ▸ List.mem_append_left _ hbefore)
    · rcases List.mem_cons.mp hrest with rfl | hafter
      · exact hlt
      · exact h e' (hes ▸ List.mem_append_right _ (List.mem_cons_of_mem _ hafter))

theorem Sparing.queries {s : MockStore} (h : s.Sparing) (ids : List String) :
    ((ids.mapM repository.countMatching).run s).2.Sparing := by
  induction ids generalizing s with
  | nil => exact h
  | cons id ids ih =>
    rw [run_mapM_cons]
    exact ih (h.query id)

theorem assess_eq_met_iff {s : MockStore} :
    s.assess = .met ↔ s.unexpected = [] ∧ ∀ e ∈ s.expectations, e.calls = e.times := by
  rw [assess]
  split
  · next h => simp [h]
  · next h =>
    have hnone : s.unexpected = [] := Decidable.not_not.mp h
    split
    · next e hfind =>
      have hne : e.calls ≠ e.times := by simpa using List.find?_some hfind
      simp only [reduceCtorEq, false_iff, not_and]
      exact fun _ hall => hne (hall e (List.mem_of_find?_eq_some hfind))
    · next hfind =>
      have hall : ∀ e ∈ s.expectations, e.calls = e.times := by simpa using hfind
      exact iff_of_true rfl ⟨hnone, hall⟩

/-- With nothing left and nothing asked that was not expected, the expectations are met. -/
theorem assess_of_exhausted {s : MockStore} (h : s.Sparing) (hleft : ∀ id, s.pending id = [])
    (hunexpected : s.unexpected = []) : s.assess = .met := by
  refine assess_eq_met_iff.mpr ⟨hunexpected, fun e he => ?_⟩
  have hdone : e.answers e.id = false := queue_eq_nil_iff.mp (hleft e.id) e he
  have hge : ¬ e.calls < e.times := fun hlt =>
    absurd (Expectation.answers_iff.mpr ⟨rfl, hlt⟩) (Bool.eq_false_iff.mp hdone)
  exact Nat.le_antisymm (h e he) (Nat.le_of_not_lt hge)

/-- **A stand-in that is asked what it expects is content.**  It gives the registered answers, has
noted what it was asked for, and finds its expectations met. -/
theorem run_expecting (queries : List (String × Response)) :
    ∃ left, ((queries.map Prod.fst).mapM repository.countMatching).run (expecting queries) =
        (queries.map (·.2.answer), left) ∧
      left.calls = queries.map Prod.fst ∧ left.assess = .met := by
  obtain ⟨hanswers, hnothing, hcalls, hunexpected⟩ :=
    run_queries_of_pending (pending_expecting queries)
  have hsparing := (Sparing.expecting queries).queries (queries.map Prod.fst)
  exact ⟨_, Prod.ext hanswers rfl, hcalls.trans (List.nil_append _),
    assess_of_exhausted hsparing hnothing hunexpected⟩

end MockStore

namespace ScriptedStore

/-- A session on the stand-in with a script. -/
def session (holding : Holding) (config : RuleConfig) :
    Session ScriptedStore Command (List String) :=
  ⟨repository, holding, config, perform⟩

/-- A script answers as many queries as it is long, whatever they are for. -/
theorem run_queries {ids : List String} {script : List CountAnswer}
    (hlen : script.length = ids.length) (calls : List String) :
    ∃ left, (ids.mapM repository.countMatching).run ⟨script, calls⟩ = (script, left) ∧
      left.calls = calls ++ ids := by
  induction script generalizing ids calls with
  | nil =>
    rw [List.length_eq_zero_iff.mp hlen.symm]
    exact ⟨_, rfl, (List.append_nil _).symm⟩
  | cons answer rest ih =>
    obtain ⟨id, ids, rfl⟩ := List.exists_cons_of_length_eq_add_one hlen.symm
    have hfirst : (repository.countMatching id).run ⟨answer :: rest, calls⟩ =
        (answer, ⟨after (answer :: rest), calls ++ [id]⟩) := rfl
    rw [run_mapM_cons, hfirst]
    cases rest with
    | nil =>
      -- the last answer is not used up, but nothing is asked any more
      obtain rfl : ids = [] := List.length_eq_zero_iff.mp (Nat.succ.inj hlen).symm
      exact ⟨_, rfl, rfl⟩
    | cons answer' rest =>
      obtain ⟨left, hran, hcalls⟩ := ih (Nat.succ.inj hlen) (calls ++ [id])
      refine ⟨left, ?_, by rw [hcalls, List.append_assoc, List.singleton_append]⟩
      simp only [after, hran]

end ScriptedStore

namespace MemoryStore

/-- The store in memory answers every query with a count. -/
theorem exists_queries (holding : Holding) (config : RuleConfig) (steps : List (Step Command))
    (s : MemoryStore) :
    ∃ counts : List (String × Nat), (session holding config).queries steps s =
      counts.map fun (id, n) => (id, .ok n) := by
  induction steps generalizing s with
  | nil => exact ⟨[], rfl⟩
  | cons first rest ih =>
    obtain ⟨counts, hcounts⟩ :=
      ih (((session holding config).step first).run (Traced.ofState s)).2.state
    cases hq : first.query? with
    | none =>
      refine ⟨counts, ?_⟩
      rw [Session.queries, hcounts, Session.noted?, hq]
      rfl
    | some id =>
      refine ⟨(id, s.count id) :: counts, ?_⟩
      rw [Session.queries, hcounts, Session.noted?, hq]
      rfl

end MemoryStore

/-! ## The replay -/

/-- **Stand-ins replay sessions on the store in memory.**  Fill a store with any accounts, take any
steps on it, and note the queries that it gets and the counts that it answers, which changes
nothing.  Then, with the same configuration and without the commands,

* a stand-in that expects these queries in this order and is asked nothing else makes every step
  give the same answer and write down the same events, was asked for the same ids in the same order,
  and finds its expectations met;
* a stand-in that answers these counts in this order, whatever it is asked for, does the same. -/
theorem stand_ins_replay_sessions (initial : List (Account × Instant))
    (holding standing : Holding) (config : RuleConfig) (steps : List (Step MemoryStore.Command)) :
    let session := MemoryStore.session holding config
    let start := MemoryStore.filled initial
    let ran := session.run steps start
    ∃ counts : List (String × Nat),
      session.recorded.run steps (Traced.ofState start) =
        (ran.1, ⟨ran.2, counts.map fun (id, n) => (id, .ok n)⟩) ∧
      (let mock := MockStore.session standing config
        let registering := MockStore.registering (counts.map fun (id, n) => (id, .count n))
        let ready := (mock.run registering MockStore.empty).2
        let replayed := steps.filterMap Step.replayed?
        let left := (mock.run replayed ready).2
        (mock.run replayed ready).1 = replayedAnswers ran.1 ∧
          mock.Takes ready replayed (.command .calls)
            (.outcome (.calls (counts.map Prod.fst))) [] left ∧
          mock.Takes ready replayed (.command .assess) (.outcome (.assessment .met)) [] left) ∧
      (let scripted := ScriptedStore.session standing config
        let script := ScriptedStore.ofScript (counts.map fun (_, n) => .ok n)
        let replayed := steps.filterMap Step.replayed?
        let left := (scripted.run replayed script).2
        (scripted.run replayed script).1 = replayedAnswers ran.1 ∧
          scripted.Takes script replayed (.command .calls) (.outcome (counts.map Prod.fst)) []
            left) := by
  intro session start ran
  obtain ⟨counts, hcounts⟩ := MemoryStore.exists_queries holding config steps start
  have hids : (session.queries steps start).map Prod.fst = counts.map Prod.fst := by
    rw [hcounts, List.map_map]
    rfl
  have hanswers : (session.queries steps start).map Prod.snd =
      counts.map fun (_, n) => (.ok n : CountAnswer) := by
    rw [hcounts, List.map_map]
    rfl
  refine ⟨counts, ?_, ?_, ?_⟩
  · rw [Traced.ofState, Session.run_recorded, hcounts, List.nil_append]
  · intro mock registering ready replayed left
    have hready : ready = MockStore.expecting (counts.map fun (id, n) => (id, .count n)) :=
      MockStore.run_registering standing config _ MockStore.empty
    obtain ⟨asked, hasked, hcalls, hmet⟩ :=
      MockStore.run_expecting (counts.map fun (id, n) => (id, .count n))
    simp only [List.map_map, Function.comp_def, ← hready] at hasked hcalls
    have hran : mock.run replayed ready = (replayedAnswers ran.1, asked) :=
      session.run_replayed mock rfl steps start (by rw [hids, hanswers]; exact hasked)
    have hleft : left = asked := congrArg Prod.snd hran
    refine ⟨congrArg Prod.fst hran, mock.takes_of_step rfl ?_, mock.takes_of_step rfl ?_⟩
    · rw [← hcalls, ← hleft]
      rfl
    · rw [← hmet, ← hleft]
      rfl
  · intro scripted script replayed left
    have hlen : (counts.map fun (_, n) => (.ok n : CountAnswer)).length =
        (counts.map Prod.fst).length := by
      rw [List.length_map, List.length_map]
    obtain ⟨asked, hasked, hcalls⟩ := ScriptedStore.run_queries hlen []
    have hran : scripted.run replayed script = (replayedAnswers ran.1, asked) :=
      session.run_replayed scripted rfl steps start (by rw [hids, hanswers]; exact hasked)
    have hleft : left = asked := congrArg Prod.snd hran
    refine ⟨congrArg Prod.fst hran, scripted.takes_of_step rfl ?_⟩
    rw [← List.nil_append (counts.map Prod.fst), ← hcalls, ← hleft]
    rfl

end Roster
