import Roster.Json.Fault
import Roster.Rule

/-!
# Errors

Everything that can go wrong, in one type.  A rule's objection and a store's failure speak for
themselves: their messages, and the step to what lies below them, are handed on unchanged.
-/

set_option autoImplicit false

namespace Roster

/-- What went wrong. -/
inductive Error
  /-- A rule objected to an account. -/
  | rule (e : RuleError)
  /-- A store failed outside of any rule. -/
  | repository (failure : StoreFailure)
  /-- The configuration makes no sense, for the stated reason. -/
  | config (reason : String)
  /-- A document could not be read. -/
  | document (e : Json.Error)

namespace Error

/-- The words for what went wrong. -/
def message : Error → String
  | .rule e => e.message
  | .repository failure => failure.message
  | .config reason => "Configuration error: " ++ reason
  | .document e => "Serialization error: " ++ e.message

/-- One step down.  The fault of a document lies below the error that reports it; a rule's objection
and a store's failure stand in for the error itself, so the step is theirs. -/
def source? : Error → Option Source
  | .rule e => e.source?
  | .repository failure => failure.source?
  | .config _ => none
  | .document e => some (.last e.message)

/-- The messages met on the way down, outermost first. -/
def causes (e : Error) : List String := Source.chain e.source?

end Error

end Roster
