import Roster.Session

/-!
# Runs

What is done step by step leaves a state after every step.  The equations here take such a run
apart: at its head, and at any place between two of its steps.
-/

set_option autoImplicit false

namespace Roster

section Sequence

variable {σ α β : Type} (act : α → StateM σ β)

/-- Doing nothing leaves a state alone. -/
theorem run_mapM_nil (s : σ) : (([] : List α).mapM act).run s = ([], s) := rfl

/-- Acting on a list is acting on its head, and then on the others in the state that leaves. -/
theorem run_mapM_cons (x : α) (xs : List α) (s : σ) :
    ((x :: xs).mapM act).run s =
      let first := (act x).run s
      let later := (xs.mapM act).run first.2
      (first.1 :: later.1, later.2) := by
  rw [List.mapM_cons]
  rfl

/-- Acting on two lists one behind the other is acting on the second in the state that the first
leaves. -/
theorem run_mapM_append (xs ys : List α) (s : σ) :
    ((xs ++ ys).mapM act).run s =
      let earlier := (xs.mapM act).run s
      let later := (ys.mapM act).run earlier.2
      (earlier.1 ++ later.1, later.2) := by
  induction xs generalizing s with
  | nil => rfl
  | cons x xs ih =>
    rw [List.cons_append, run_mapM_cons, run_mapM_cons]
    simp only [ih, List.cons_append]

/-- Every member of a list gets its own result. -/
theorem length_run_mapM (xs : List α) (s : σ) : ((xs.mapM act).run s).1.length = xs.length := by
  induction xs generalizing s with
  | nil => rfl
  | cons x xs ih => rw [run_mapM_cons, List.length_cons, List.length_cons, ih]

/-- Known results of acting on two lists are results of acting on each of them. -/
theorem run_mapM_of_append {xs ys : List α} {bs cs : List β} {s left : σ}
    (hlen : bs.length = xs.length) (h : ((xs ++ ys).mapM act).run s = (bs ++ cs, left)) :
    ∃ mid, (xs.mapM act).run s = (bs, mid) ∧ (ys.mapM act).run mid = (cs, left) := by
  rw [run_mapM_append] at h
  obtain ⟨hresults, hleft⟩ := Prod.mk.inj h
  obtain ⟨hbs, hcs⟩ := List.append_inj hresults (by rw [length_run_mapM, hlen])
  exact ⟨((xs.mapM act).run s).2, Prod.ext hbs rfl, Prod.ext hcs hleft⟩

end Sequence

namespace Session

variable {σ κ ρ : Type} (session : Session σ κ ρ)

/-- A run can be interrupted anywhere and taken up again in the state that was reached. -/
theorem run_append (before after : List (Step κ)) (s : σ) :
    session.run (before ++ after) s =
      let earlier := session.run before s
      let later := session.run after earlier.2
      (earlier.1 ++ later.1, later.2) := by
  induction before generalizing s with
  | nil => rfl
  | cons first rest ih => simp only [List.cons_append, run_cons, ih]

/-- What a step does at a point of a session: in every run from `start` that takes the step after
the `earlier` ones, whatever comes later, the step gets this answer, writes down these events and
leaves this state to the later steps. -/
def Takes (start : σ) (earlier : List (Step κ)) (step : Step κ) (answer : Answer ρ)
    (events : List Event) (left : σ) : Prop :=
  ∀ later, session.run (earlier ++ step :: later) start =
    ((session.run earlier start).1 ++ (answer, events) :: (session.run later left).1,
      (session.run later left).2)

theorem takes_of_step {start s : σ} {earlier : List (Step κ)} {step : Step κ} {answer : Answer ρ}
    {events : List Event} {left : σ} (hs : (session.run earlier start).2 = s)
    (h : (session.step step).run (Traced.ofState s) = (answer, ⟨left, events⟩)) :
    session.Takes start earlier step answer events left := by
  intro later
  simp only [run_append, run_cons, hs, h]

end Session

end Roster
