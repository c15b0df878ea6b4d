import Roster.Account.Identifier
import Roster.Journal

/-!
# Rules

A rule looks at one account and either passes or says what it objects to.  There are four: the id
is present, the id has the right length, the id of a stored account is held by exactly one record,
and the id of an account about to be created is held by none.

* `RuleError` — what a rule objects to, or the failure of the store it had to ask.
* `RuleSet` — four rules over a common state, which each of them may change.
* `RuleSet.fixed` — rules whose results do not depend on the account.
* `RuleSet.recorded` — the same rules, with a trace of which rule was put to which account.
-/

set_option autoImplicit false

namespace Roster

/-- Why an account did not pass a rule. -/
inductive RuleError
  /-- The id is empty. -/
  | missingId
  /-- The id does not have the required number of bytes. -/
  | incorrectLength (expected actual : Nat)
  /-- The id of a stored account is held by another number of records than one. -/
  | notUnique (count : Nat)
  /-- The id of a new account is held by some records already. -/
  | alreadyExists (count : Nat)
  /-- The store could not be asked. -/
  | repository (failure : StoreFailure)
deriving DecidableEq

namespace RuleError

/-- The words for what is wrong.  A failed store speaks for itself. -/
def message : RuleError → String
  | .missingId => "ID is required"
  | .incorrectLength expected actual =>
    "ID must be " ++ toString expected ++ " bytes long, got " ++ toString actual
  | .notUnique _ => "ID is not unique"
  | .alreadyExists _ => "ID already exists"
  | .repository failure => failure.message

/-- One step down.  A failed store stands in for the error itself here as well, so the step leads to
what lies below the store's failure and not to the failure. -/
def source? : RuleError → Option Source
  | .repository failure => failure.source?
  | _ => none

/-- The messages met on the way down, outermost first. -/
def causes (e : RuleError) : List String := Source.chain e.source?

/-- The field of the account that is to blame, if the account is. -/
def field : RuleError → Option String
  | .repository _ => none
  | _ => some "id"

/-- Whether the store is to blame and not the account. -/
def isRepositoryFailure : RuleError → Bool
  | .repository _ => true
  | _ => false

/-- Either a field of the account is to blame or the store is. -/
theorem field_eq_none_iff (e : RuleError) : e.field = none ↔ e.isRepositoryFailure = true := by
  cases e <;> simp [field, isRepositoryFailure]

end RuleError

/-- What a rule says about an account. -/
abbrev RuleResult := Except RuleError Unit

/-- The four rules for account ids, over states of type `σ`. -/
structure RuleSet (σ : Type) where
  /-- The id is not empty. -/
  idIsPresent : Account → StateM σ RuleResult
  /-- The id has the configured length, in bytes. -/
  idIsCorrectLength : Account → StateM σ RuleResult
  /-- The id of a stored account is held by exactly one record. -/
  idIsUnique : Account → StateM σ RuleResult
  /-- The id of an account about to be created is held by no record. -/
  idWillBeUnique : Account → StateM σ RuleResult

/-- The names of the four rules. -/
inductive RuleName
  | present
  | length
  | unique
  | willBeUnique
deriving DecidableEq

namespace RuleSet

/-- Rules that give the same result for every account. -/
def fixed (results : RuleName → RuleResult) : RuleSet Unit where
  idIsPresent _ := pure (results .present)
  idIsCorrectLength _ := pure (results .length)
  idIsUnique _ := pure (results .unique)
  idWillBeUnique _ := pure (results .willBeUnique)

variable {σ : Type}

/-- A rule that is written down with the account whenever it is applied. -/
def recordedRule (name : RuleName) (rule : Account → StateM σ RuleResult) (a : Account) :
    StateM (Traced (RuleName × Account) σ) RuleResult := do
  Traced.record (name, a)
  Traced.silently (rule a)

/-- The same rules, each written down with the account whenever it is applied. -/
def recorded (rules : RuleSet σ) : RuleSet (Traced (RuleName × Account) σ) where
  idIsPresent := recordedRule .present rules.idIsPresent
  idIsCorrectLength := recordedRule .length rules.idIsCorrectLength
  idIsUnique := recordedRule .unique rules.idIsUnique
  idWillBeUnique := recordedRule .willBeUnique rules.idWillBeUnique

end RuleSet

end Roster
