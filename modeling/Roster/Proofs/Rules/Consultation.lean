import Roster.Proofs.Session.Run

/-!
# What the standard rules ask, write down and reply

A question to the standard rules makes them ask the repository at most once.  This file says which
questions do so and for which id, and reduces whole sequences of questions to the plain sequence
of the queries behind them, whatever the repository is and however asking changes it.

* `Question.query?` — the id that a question makes the rules ask for, if any.
* `Question.expected` — the reply to a question, given the answer of the repository.
* `StandardRules.run_reply_of_none` and `StandardRules.run_reply_of_some` — one question, as the
  query it leads to, if any; `StandardRules.run_replies` — a sequence of them.
* `Repository.recorded` — a repository that notes every query that reaches it, with its answer.
* `replies_of_any_repository` — the queries that arrive, the lines of the journal and the replies.
-/

set_option autoImplicit false

namespace Roster

/-! ## What a question asks for -/

/-- The id that a question makes the rules ask the repository for.  Presence and length are judged
without asking, and a validation that finds no id ends before it asks. -/
def Question.query? : Question → Option String
  | .rule .present _ => none
  | .rule .length _ => none
  | .rule .unique a => some a.id
  | .rule .willBeUnique a => some a.id
  | .validateNew a => if a.id = "" then none else some a.id
  | .validateExisting a => if a.id = "" then none else some a.id

/-- Gives every question that asks for something the next of the answers, and the others none. -/
def Question.deal : List Question → List CountAnswer → List (Option CountAnswer)
  | [], _ => []
  | q :: qs, answers =>
    match q.query? with
    | none => none :: deal qs answers
    | some _ => answers.head? :: deal qs answers.tail

/-! ## What speaks against an account

The three things that can be said against an id, each as the list of the objections it leads to. -/

/-- The objection to the length of an id, in bytes of UTF-8. -/
def RuleConfig.misfits (c : RuleConfig) (a : Account) : List RuleError :=
  if a.id.utf8ByteSize = c.idLength then []
  else [.incorrectLength c.idLength a.id.utf8ByteSize]

theorem RuleConfig.misfits_eq_nil_iff {c : RuleConfig} {a : Account} :
    c.misfits a = [] ↔ a.id.utf8ByteSize = c.idLength := by
  rw [misfits]
  split <;> simp_all

/-- What the repository says against a stored account: its id must be held exactly once. -/
def CountAnswer.againstStored : CountAnswer → List RuleError
  | .ok 1 => []
  | .ok n => [.notUnique n]
  | .error failure => [.repository failure]

/-- What the repository says against a new account: its id must not be held. -/
def CountAnswer.againstNew : CountAnswer → List RuleError
  | .ok 0 => []
  | .ok n => [.alreadyExists n]
  | .error failure => [.repository failure]

/-- Everything that speaks against the account of a question.  A missing id is all there is to say;
a wrong length does not keep the uniqueness from being judged. -/
def Question.complaints (config : RuleConfig) (answer : Option CountAnswer) :
    Question → List RuleError
  | .rule .present a => if a.id = "" then [.missingId] else []
  | .rule .length a => config.misfits a
  | .rule .unique _ => answer.elim [] CountAnswer.againstStored
  | .rule .willBeUnique _ => answer.elim [] CountAnswer.againstNew
  | .validateNew a =>
    if a.id = "" then [.missingId]
    else config.misfits a ++ answer.elim [] CountAnswer.againstNew
  | .validateExisting a =>
    if a.id = "" then [.missingId]
    else config.misfits a ++ answer.elim [] CountAnswer.againstStored

/-- The result of a validation that found these complaints. -/
def ValidationResult.ofComplaints : List RuleError → ValidationResult
  | [] => .ok ()
  | e :: es => .error (e :: es)

/-- How complaints are replied: a rule gives one, a validation gives the list of all. -/
def Question.report : Question → List RuleError → Reply
  | .rule _ _, [] => .rule (.ok ())
  | .rule _ _, e :: _ => .rule (.error e)
  | .validateNew _, es | .validateExisting _, es => .validation (.ofComplaints es)

/-- The reply to a question, given the answer of the repository if the question asks for one. -/
def Question.expected (config : RuleConfig) (q : Question) (answer : Option CountAnswer) : Reply :=
  q.report (q.complaints config answer)

namespace Question

theorem deal_cons_of_none {q : Question} (h : q.query? = none) (qs : List Question)
    (answers : List CountAnswer) : deal (q :: qs) answers = none :: deal qs answers := by
  rw [deal, h]

theorem deal_cons_of_some {q : Question} {id : String} (h : q.query? = some id)
    (qs : List Question) (r : CountAnswer) (answers : List CountAnswer) :
    deal (q :: qs) (r :: answers) = some r :: deal qs answers := by
  rw [deal, h]
  rfl

end Question

/-! ## The rules one by one

The result of every rule is the list of what it objects to, and the reply to a question is the
report of such a list. -/

theorem verdict_eq (results : List RuleResult) :
    verdict results = .ofComplaints (objections results) := by
  rw [verdict]
  cases objections results <;> rfl

theorem Question.report_rule (name : RuleName) (a : Account) (r : RuleResult) :
    (rule name a).report (objections [r]) = .rule r := by
  cases r <;> rfl

theorem objections_cons (r : RuleResult) (results : List RuleResult) :
    objections (r :: results) = objections [r] ++ objections results := by
  rw [← List.singleton_append, objections, List.filterMap_append]
  rfl

namespace StandardRules

theorem objections_present (a : Account) :
    objections [present a] = if a.id = "" then [.missingId] else [] := by
  rw [present]
  split <;> rfl

theorem objections_unique (r : CountAnswer) : objections [unique r] = r.againstStored := by
  cases r with
  | error failure => rfl
  | ok n =>
    rw [unique, CountAnswer.againstStored.eq_def]
    split <;> grind [objections]

theorem objections_unused (r : CountAnswer) : objections [unused r] = r.againstNew := by
  cases r with
  | error failure => rfl
  | ok n => cases n <;> rfl

variable {σ : Type} (rules : StandardRules σ)

theorem objections_correctLength (a : Account) :
    objections [rules.correctLength a] = rules.config.misfits a := by
  rw [correctLength, RuleConfig.misfits]
  split <;> rfl

/-! ## One question -/

/-- A validation without an id ends with that; any other asks once for the id, writes the answer
down and reports what speaks against the length and what the answer gives rise to. -/
theorem run_validateWith (judge : CountAnswer → RuleResult) (a : Account) (t : Journaled σ) :
    (rules.ruleSet.validateWith (fun a => do return judge (← rules.count a.id)) a).run t =
      if a.id = "" then (.error [.missingId], t)
      else
        let asked := (rules.repository.countMatching a.id).run t.state
        (verdict [rules.correctLength a, judge asked.1],
          ⟨asked.2, t.trace ++ [Event.ofAnswer a.id asked.1]⟩) := by
  rw [RuleSet.run_validateWith]
  have hp : (rules.ruleSet.idIsPresent a).run t = (present a, t) := rfl
  rw [hp, present]
  by_cases h : a.id = ""
  · simp only [h, if_true]
  · simp only [h, if_false]
    rfl

theorem run_reply_validateNew (a : Account) (t : Journaled σ) :
    (rules.ruleSet.reply (.validateNew a)).run t =
      let v := (rules.ruleSet.validateWith (fun a => do return unused (← rules.count a.id)) a).run t
      (.validation v.1, v.2) := rfl

theorem run_reply_validateExisting (a : Account) (t : Journaled σ) :
    (rules.ruleSet.reply (.validateExisting a)).run t =
      let v := (rules.ruleSet.validateWith (fun a => do return unique (← rules.count a.id)) a).run t
      (.validation v.1, v.2) := rfl

/-- **A question that asks for nothing.**  The rules reply from the account alone. -/
theorem run_reply_of_none {q : Question} (h : q.query? = none) (t : Journaled σ) :
    (rules.ruleSet.reply q).run t = (q.expected rules.config none, t) := by
  cases q with
  | rule name a =>
    cases name with
    | present =>
      rw [Question.expected, Question.complaints, ← objections_present, Question.report_rule]
      rfl
    | length =>
      rw [Question.expected, Question.complaints, ← objections_correctLength,
        Question.report_rule]
      rfl
    | unique => simp [Question.query?] at h
    | willBeUnique => simp [Question.query?] at h
  | validateNew a =>
    have ha : a.id = "" := by simpa [Question.query?] using h
    rw [run_reply_validateNew, run_validateWith, if_pos ha, Question.expected,
      Question.complaints, if_pos ha]
    rfl
  | validateExisting a =>
    have ha : a.id = "" := by simpa [Question.query?] using h
    rw [run_reply_validateExisting, run_validateWith, if_pos ha, Question.expected,
      Question.complaints, if_pos ha]
    rfl

/-- **A question that asks for an id.**  The repository is asked exactly once, the answer is all
that is written down, and the reply follows from the account and the answer. -/
theorem run_reply_of_some {q : Question} {id : String} (h : q.query? = some id)
    (t : Journaled σ) :
    (rules.ruleSet.reply q).run t =
      let asked := (rules.repository.countMatching id).run t.state
      (q.expected rules.config (some asked.1),
        ⟨asked.2, t.trace ++ [Event.ofAnswer id asked.1]⟩) := by
  cases q with
  | rule name a =>
    cases name with
    | present => simp [Question.query?] at h
    | length => simp [Question.query?] at h
    | unique =>
      obtain rfl : a.id = id := by simpa [Question.query?] using h
      simp only [Question.expected, Question.complaints, Option.elim_some, ← objections_unique,
        Question.report_rule]
      rfl
    | willBeUnique =>
      obtain rfl : a.id = id := by simpa [Question.query?] using h
      simp only [Question.expected, Question.complaints, Option.elim_some, ← objections_unused,
        Question.report_rule]
      rfl
  | validateNew a =>
    obtain ⟨ha, rfl⟩ : a.id ≠ "" ∧ a.id = id := by simpa [Question.query?] using h
    simp only [run_reply_validateNew, run_validateWith, if_neg ha, Question.expected,
      Question.complaints, Option.elim_some, ← objections_correctLength, ← objections_unused,
      ← objections_cons, Question.report, verdict_eq]
  | validateExisting a =>
    obtain ⟨ha, rfl⟩ : a.id ≠ "" ∧ a.id = id := by simpa [Question.query?] using h
    simp only [run_reply_validateExisting, run_validateWith, if_neg ha, Question.expected,
      Question.complaints, Option.elim_some, ← objections_correctLength, ← objections_unique,
      ← objections_cons, Question.report, verdict_eq]

end StandardRules

/-- A validation that is replied to a question is the one that was run. -/
theorem RuleSet.run_of_run_reply {σ : Type} {validation : StateM σ ValidationResult} {s left : σ}
    {r : ValidationResult}
    (h : (do return Reply.validation (← validation) : StateM σ Reply).run s =
      (.validation r, left)) :
    validation.run s = (r, left) := by
  obtain ⟨hr, hleft⟩ := Prod.mk.inj h
  exact Prod.ext (Reply.validation.inj hr) hleft

/-! ## Many questions -/

namespace StandardRules

variable {σ : Type} (rules : StandardRules σ)

/-- **A sequence of questions.**  The repository gets the queries behind them, one after the other
and nothing else; every answer is written down, and goes to the question that asked for it. -/
theorem run_replies (qs : List Question) (t : Journaled σ) :
    (qs.mapM rules.ruleSet.reply).run t =
      let ids := qs.filterMap Question.query?
      let asked := (ids.mapM rules.repository.countMatching).run t.state
      (List.zipWith (Question.expected rules.config) qs (Question.deal qs asked.1),
        ⟨asked.2, t.trace ++ List.zipWith Event.ofAnswer ids asked.1⟩) := by
  induction qs generalizing t with
  | nil => simp only [run_mapM_nil, List.filterMap_nil, List.zipWith_nil_left, List.append_nil]
  | cons q qs ih =>
    cases h : q.query? with
    | none =>
      rw [run_mapM_cons, rules.run_reply_of_none h, List.filterMap_cons_none h]
      simp only [ih, Question.deal_cons_of_none h, List.zipWith_cons_cons]
    | some id =>
      rw [run_mapM_cons, rules.run_reply_of_some h, List.filterMap_cons_some h]
      simp only [run_mapM_cons, ih, Question.deal_cons_of_some h, List.zipWith_cons_cons,
        List.append_assoc, List.singleton_append]

end StandardRules

/-! ## The queries that arrive -/

namespace Repository

variable {σ : Type} (r : Repository σ)

/-- The same repository, which notes every query that reaches it together with its answer. -/
def recorded : Repository (Traced (String × CountAnswer) σ) where
  countMatching id := do
    let answer ← Traced.silently (r.countMatching id)
    Traced.record (id, answer)
    return answer

theorem run_recorded (id : String) (t : Traced (String × CountAnswer) σ) :
    (r.recorded.countMatching id).run t =
      let asked := (r.countMatching id).run t.state
      (asked.1, ⟨asked.2, t.trace ++ [(id, asked.1)]⟩) := rfl

/-- A repository that takes notes answers as it does without. -/
theorem run_mapM_recorded (ids : List String) (t : Traced (String × CountAnswer) σ) :
    (ids.mapM r.recorded.countMatching).run t =
      let asked := (ids.mapM r.countMatching).run t.state
      (asked.1, ⟨asked.2, t.trace ++ ids.zip asked.1⟩) := by
  induction ids generalizing t with
  | nil => simp only [run_mapM_nil, List.zip_nil_left, List.append_nil]
  | cons id ids ih =>
    rw [run_mapM_cons, run_recorded]
    simp only [run_mapM_cons, ih, List.zip_cons_cons, List.append_assoc, List.singleton_append]

end Repository

/-- The line about the answer to a query for an id. -/
def CountAnswer.line (id : String) : CountAnswer → String
  | .ok count => "DEBUG " ++ toString count ++ " account(s) hold ID " ++ Text.quoted id
  | .error failure =>
    "WARN Failed to count accounts with ID " ++ Text.quoted id ++ ": " ++ failure.message

theorem line_ofAnswer (id : String) (r : CountAnswer) :
    (Event.ofAnswer id r).line = r.line id := by
  cases r <;> rfl

/-- **The standard rules over any repository.**  Take a sequence of questions to one set of rules,
held in any way over a repository whose answers may depend on everything it was asked before.  Then

* exactly the queries of the questions arrive at the repository, in the order of the questions, and
  it answers them as if it had been asked directly;
* the journal has one line for each of these queries, in the same order, with its answer;
* every reply is the one that the account, the configuration and the answer to the query of its own
  question call for. -/
theorem replies_of_any_repository {σ : Type} (repository : Repository σ) (holding : Holding)
    (config : RuleConfig) (qs : List Question) (s : σ) :
    let rules : StandardRules _ := ⟨repository.recorded.through holding, config⟩
    let ran := (qs.mapM rules.ruleSet.reply).run (Traced.ofState (Traced.ofState s))
    let ids := qs.filterMap Question.query?
    let asked := (ids.mapM repository.countMatching).run s
    ran.2.state.trace.map Prod.fst = ids ∧
      ran.2.state.trace.map Prod.snd = asked.1 ∧
      ran.2.state.state = asked.2 ∧
      ran.2.trace.map Event.line = List.zipWith CountAnswer.line ids asked.1 ∧
      ran.1 = List.zipWith (Question.expected config) qs (Question.deal qs asked.1) := by
  intro rules ran ids asked
  have hlen : asked.1.length = ids.length := length_run_mapM _ _ _
  have hran : ran = (List.zipWith (Question.expected config) qs (Question.deal qs asked.1),
      ⟨⟨asked.2, ids.zip asked.1⟩, List.zipWith Event.ofAnswer ids asked.1⟩) := by
    simp only [ran, rules, Repository.through_eq, StandardRules.run_replies,
      Repository.run_mapM_recorded, Traced.ofState, List.nil_append]
    rfl
  rw [hran]
  refine ⟨List.map_fst_zip (Nat.le_of_eq hlen.symm), List.map_snd_zip (Nat.le_of_eq hlen), rfl,
    ?_, rfl⟩
  rw [List.map_zipWith]
  simp only [line_ofAnswer]

end Roster
