import Roster.Error
import Roster.Json.Record

/-!
# The configuration of the rules

The rules have one setting, the number of bytes that an id has to have.

* `RuleConfig` — the setting, and `RuleConfig.default`, thirty-six bytes.
* `RuleConfig.validate` — refuses zero.
* `RuleConfig.ofJson` and `RuleConfig.toJson` — the configuration as a document.
-/

set_option autoImplicit false

namespace Roster

/-- The settings of the rules for account ids. -/
structure RuleConfig where
  /-- The number of bytes that an id has to have. -/
  idLength : Nat
deriving DecidableEq

namespace RuleConfig

/-- The length of a generated id. -/
def default : RuleConfig := ⟨36⟩

/-- The configuration with another length. -/
def withIdLength (_ : RuleConfig) (length : Nat) : RuleConfig := ⟨length⟩

/-- Whether the settings can be used: an id of no bytes would be no id. -/
def validate (c : RuleConfig) : Except Error Unit :=
  if c.idLength = 0 then .error (.config "id_length must be greater than zero") else .ok ()

/-- How a configuration is laid out in a document. -/
def layout : Json.Layout RuleConfig where
  name := "struct RuleConfig"
  initial := default
  members := [
    Json.Member.ofReader "id_length" (Json.readNatural "usize")
      (fun length c => c.withIdLength length) Json.length_lt_of_readNatural]

/-- The configuration that a document holds.  The document is read to its end before the settings
are looked at. -/
def ofJson (document : String) : Except Error RuleConfig :=
  match layout.decode document with
  | .error e => .error (.document e)
  | .ok c =>
    match c.validate with
    | .error e => .error e
    | .ok () => .ok c

/-- The document of a configuration, without blanks. -/
def toJson (c : RuleConfig) : String :=
  String.ofList (Json.writtenObject [Json.writtenMember "id_length" (Nat.toDigits 10 c.idLength)])

end RuleConfig

end Roster
