import Roster.Proofs.Session.Run
import Roster.Validation

/-!
# The course of a validation

Which rules a validation puts to an account, in which order and in which states, for rules that may
do anything: each may change the state that all of them share, and give any result.

* `Validation` — the validations that can be asked for, and the rule for uniqueness of each.
* `RuleSet.Course` — what happens in one validation, and `RuleSet.Courses`, in a sequence of them.
* `RuleSet.course_validate` — one validation takes such a course; being recorded does not change it.
* `courses_of_any_rules` — so does every validation of a sequence.
-/

set_option autoImplicit false

namespace Roster

/-- A validation of an account, as one that is about to be created or as one that is stored. -/
inductive Validation
  | new (a : Account)
  | existing (a : Account)

namespace Validation

/-- The account that is validated. -/
def account : Validation → Account
  | new a => a
  | existing a => a

/-- The rule for the uniqueness of the id. -/
def uniqueness : Validation → RuleName
  | new _ => .willBeUnique
  | existing _ => .unique

end Validation

/-- The result of a validation, from what the rules for the length and for the uniqueness say. -/
def collected : RuleResult → RuleResult → ValidationResult
  | .ok (), .ok () => .ok ()
  | .error e, .ok () => .error [e]
  | .ok (), .error e' => .error [e']
  | .error e, .error e' => .error [e, e']

theorem collected_ne_nil (length unique : RuleResult) : collected length unique ≠ .error [] := by
  cases length <;> cases unique <;> simp [collected]

/-- The verdict on two results is what is collected from them. -/
theorem verdict_pair (length unique : RuleResult) :
    verdict [length, unique] = collected length unique := by
  cases length <;> cases unique <;> rfl

namespace RuleSet

variable {σ : Type} (rules : RuleSet σ)

/-- The rule with a name. -/
def named : RuleName → Account → StateM σ RuleResult
  | .present => rules.idIsPresent
  | .length => rules.idIsCorrectLength
  | .unique => rules.idIsUnique
  | .willBeUnique => rules.idWillBeUnique

/-- Carries out a validation. -/
def validate : Validation → StateM σ ValidationResult
  | .new a => rules.validateNew a
  | .existing a => rules.validateExisting a

/-! ## Courses -/

/-- What happens in a validation that starts in the state `s`: the rules that are put to an account,
with the account, the result, and the state that is left. -/
inductive Course (v : Validation) (s : σ) :
    List (RuleName × Account) → ValidationResult → σ → Prop
  /-- The id is not present, and nothing else is asked. -/
  | absent {e : RuleError} {left : σ} :
      (rules.named .present v.account).run s = (.error e, left) →
      Course v s [(.present, v.account)] (.error [e]) left
  /-- The id is present; its length is judged in the state that this leaves, and its uniqueness in
  the state that the length leaves, whatever is said about the length. -/
  | judged {s₁ s₂ left : σ} {length unique : RuleResult} :
      (rules.named .present v.account).run s = (.ok (), s₁) →
      (rules.named .length v.account).run s₁ = (length, s₂) →
      (rules.named v.uniqueness v.account).run s₂ = (unique, left) →
      Course v s [(.present, v.account), (.length, v.account), (v.uniqueness, v.account)]
        (collected length unique) left

/-- What happens in validations one after the other, each in the state that the one before it
leaves. -/
inductive Courses : List Validation → σ → List (List (RuleName × Account)) →
    List ValidationResult → σ → Prop
  | nil {s : σ} : Courses [] s [] [] s
  | cons {v : Validation} {vs : List Validation} {s s' left : σ}
      {applied : List (RuleName × Account)} {later : List (List (RuleName × Account))}
      {result : ValidationResult} {results : List ValidationResult} :
      rules.Course v s applied result s' → Courses vs s' later results left →
      Courses (v :: vs) s (applied :: later) (result :: results) left

/-- No course ends with an empty list of objections. -/
theorem Course.result_ne_nil {v : Validation} {s left : σ} {applied : List (RuleName × Account)}
    {result : ValidationResult} (h : rules.Course v s applied result left) :
    result ≠ .error [] := by
  cases h with
  | absent _ => simp
  | judged _ _ _ => exact collected_ne_nil _ _

theorem Courses.nil_not_mem {vs : List Validation} {s left : σ}
    {applied : List (List (RuleName × Account))} {results : List ValidationResult}
    (h : rules.Courses vs s applied results left) : .error [] ∉ results := by
  induction h with
  | nil => exact List.not_mem_nil
  | cons hfirst _ ih =>
    intro hmem
    rcases List.mem_cons.mp hmem with heq | hlater
    · exact hfirst.result_ne_nil rules heq.symm
    · exact ih hlater

/-! ## One validation -/

theorem validate_eq (v : Validation) :
    rules.validate v = rules.validateWith (rules.named v.uniqueness) v.account := by
  cases v <;> rfl

/-- A rule that is recorded does what it does otherwise. -/
theorem run_named_recorded (name : RuleName) (a : Account)
    (t : Traced (RuleName × Account) σ) :
    (rules.recorded.named name a).run t =
      let ran := (rules.named name a).run t.state
      (ran.1, ⟨ran.2, t.trace ++ [(name, a)]⟩) := by
  cases name <;> rfl

/-- A validation puts the rules to the account by their names. -/
theorem run_validate (v : Validation) (s : σ) :
    (rules.validate v).run s =
      match (rules.named .present v.account).run s with
      | (.error e, s) => (.error [e], s)
      | (.ok (), s) =>
        let l := (rules.named .length v.account).run s
        let u := (rules.named v.uniqueness v.account).run l.2
        (collected l.1 u.1, u.2) := by
  simp only [validate_eq, run_validateWith, verdict_pair]
  rfl

/-- **One validation takes its course**, and recording it changes neither the result nor the state
that is left. -/
theorem course_validate (v : Validation) (t : Traced (RuleName × Account) σ) :
    let ran := (rules.recorded.validate v).run t
    (rules.validate v).run t.state = (ran.1, ran.2.state) ∧
      ∃ applied, ran.2.trace = t.trace ++ applied ∧
        rules.Course v t.state applied ran.1 ran.2.state := by
  simp only [run_validate, run_named_recorded]
  rcases hp : (rules.named .present v.account).run t.state with ⟨_ | _, s₁⟩
  · exact ⟨rfl, _, rfl, .absent hp⟩
  · refine ⟨rfl, [(.present, v.account), (.length, v.account), (v.uniqueness, v.account)], ?_,
      .judged hp rfl rfl⟩
    simp only [List.append_assoc, List.cons_append, List.nil_append]

/-! ## Many validations -/

/-- **So does a sequence of them**, one after the other. -/
theorem courses_validate (vs : List Validation) (t : Traced (RuleName × Account) σ) :
    let ran := (vs.mapM rules.recorded.validate).run t
    (vs.mapM rules.validate).run t.state = (ran.1, ran.2.state) ∧
      ∃ applied, ran.2.trace = t.trace ++ applied.flatten ∧
        rules.Courses vs t.state applied ran.1 ran.2.state := by
  induction vs generalizing t with
  | nil => exact ⟨rfl, [], (List.append_nil _).symm, .nil⟩
  | cons v vs ih =>
    obtain ⟨hfirst, applied, htrace, hcourse⟩ := rules.course_validate v t
    obtain ⟨hrest, later, hlater, hcourses⟩ := ih ((rules.recorded.validate v).run t).2
    simp only [run_mapM_cons]
    refine ⟨?_, applied :: later, ?_, .cons hcourse hcourses⟩
    · simp only [hfirst, hrest]
    · simp only [hlater, htrace, List.flatten_cons, List.append_assoc]

end RuleSet

/-- **Validations over any rules.**  Take rules over a state that each of them may change, with any
results, and a sequence of validations of any accounts.  Then

* recording which rules are put to which accounts changes no result and no state;
* every validation takes its own course, in the state that the one before it left: presence comes
  first, and if it fails its objection is the only one and nothing else is asked; otherwise the
  length comes next, and then, in the state that the length left and whatever it gave, the rule for
  uniqueness that belongs to the validation and no other; what these two object to is the result, in
  that order;
* no validation fails without an objection. -/
theorem courses_of_any_rules {σ : Type} (rules : RuleSet σ) (validations : List Validation)
    (s : σ) :
    let ran := (validations.mapM rules.recorded.validate).run (Traced.ofState s)
    (validations.mapM rules.validate).run s = (ran.1, ran.2.state) ∧
      (∃ applied, ran.2.trace = applied.flatten ∧
        rules.Courses validations s applied ran.1 ran.2.state) ∧
      .error [] ∉ ran.1 := by
  intro ran
  obtain ⟨hran, applied, htrace, hcourses⟩ := rules.courses_validate validations (Traced.ofState s)
  exact ⟨hran, ⟨applied, htrace, hcourses⟩, hcourses.nil_not_mem⟩

end Roster
