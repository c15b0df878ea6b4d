import Roster.Config
import Roster.Journal
import Roster.Validation

/-!
# The standard rules

The rules over a repository and a configuration.  Presence and length are judged from the account
alone.  The two rules for uniqueness ask the repository once for the account's id and write the
answer down in the journal.
-/

set_option autoImplicit false

namespace Roster

/-- A repository to ask and the settings to apply. -/
structure StandardRules (σ : Type) where
  repository : Repository σ
  config : RuleConfig

namespace StandardRules

variable {σ : Type} (rules : StandardRules σ)

/-- Asks the repository for an id and writes the answer down. -/
def count (id : String) : StateM (Journaled σ) CountAnswer := do
  let answer ← Traced.silently (rules.repository.countMatching id)
  Traced.record (Event.ofAnswer id answer)
  return answer

/-- The id must not be empty.  Blanks count as characters. -/
def present (a : Account) : RuleResult :=
  if a.id = "" then .error .missingId else .ok ()

/-- The id must have the configured number of bytes in UTF-8. -/
def correctLength (a : Account) : RuleResult :=
  if a.id.utf8ByteSize = rules.config.idLength then .ok ()
  else .error (.incorrectLength rules.config.idLength a.id.utf8ByteSize)

/-- What the answer of the store says about the id of a stored account. -/
def unique : CountAnswer → RuleResult
  | .error failure => .error (.repository failure)
  | .ok n => if n = 1 then .ok () else .error (.notUnique n)

/-- What the answer of the store says about the id of an account about to be created. -/
def unused : CountAnswer → RuleResult
  | .error failure => .error (.repository failure)
  | .ok n => if n = 0 then .ok () else .error (.alreadyExists n)

/-- The four rules. -/
def ruleSet : RuleSet (Journaled σ) where
  idIsPresent a := pure (present a)
  idIsCorrectLength a := pure (rules.correctLength a)
  idIsUnique a := do return unique (← rules.count a.id)
  idWillBeUnique a := do return unused (← rules.count a.id)

end StandardRules

end Roster
