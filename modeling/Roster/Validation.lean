import Roster.Rule

/-!
# Validation

An account is validated by three of the rules.  An id that is not present is reported alone, and
nothing else is asked.  Otherwise the length and the uniqueness of the id are both judged, whatever
comes out for the length, and every objection is reported in that order.
-/

set_option autoImplicit false

namespace Roster

variable {σ : Type}

/-- What is wrong with an account, if anything is. -/
abbrev ValidationResult := Except (List RuleError) Unit

/-- The objections among the results of rules, in order. -/
def objections (results : List RuleResult) : List RuleError :=
  results.filterMap fun
    | .error e => some e
    | .ok () => none

/-- The verdict that the results of rules add up to. -/
def verdict (results : List RuleResult) : ValidationResult :=
  match objections results with
  | [] => .ok ()
  | es => .error es

namespace RuleSet

/-- Validates an account by presence, length and the given rule for uniqueness. -/
def validateWith (rules : RuleSet σ) (uniqueness : Account → StateM σ RuleResult)
    (a : Account) : StateM σ ValidationResult := do
  match ← rules.idIsPresent a with
  | .error e => return .error [e]
  | .ok () =>
    let length ← rules.idIsCorrectLength a
    let unique ← uniqueness a
    return verdict [length, unique]

/-- Validates an account that is about to be created. -/
def validateNew (rules : RuleSet σ) (a : Account) : StateM σ ValidationResult :=
  rules.validateWith rules.idWillBeUnique a

/-- Validates an account that is already stored. -/
def validateExisting (rules : RuleSet σ) (a : Account) : StateM σ ValidationResult :=
  rules.validateWith rules.idIsUnique a

end RuleSet

/-- A validation puts presence first, and then the length and the uniqueness, each in the state that
the rule before it left. -/
theorem RuleSet.run_validateWith (rules : RuleSet σ) (u : Account → StateM σ RuleResult)
    (a : Account) (s : σ) :
    (rules.validateWith u a).run s =
      match (rules.idIsPresent a).run s with
      | (.error e, s) => (.error [e], s)
      | (.ok (), s) =>
        let l := (rules.idIsCorrectLength a).run s
        let v := (u a).run l.2
        (verdict [l.1, v.1], v.2) := by
  rw [validateWith, StateT.run_bind]
  rcases (rules.idIsPresent a).run s with ⟨_ | _, s⟩ <;> rfl

end Roster
