import Roster.Journal

/-!
# The store that answers from a script

A stand-in for a store that gives its answers in a fixed order, whatever it is asked for, and
remembers what it was asked.  The last answer of the script is never used up.  Without a script it
holds nothing.
-/

set_option autoImplicit false

namespace Roster

/-- The answers that are left, and the ids asked for so far. -/
structure ScriptedStore where
  script : List CountAnswer
  calls : List String

namespace ScriptedStore

/-- A stand-in that was not asked yet. -/
def ofScript (script : List CountAnswer) : ScriptedStore := ⟨script, []⟩

/-- The next answer of a script. -/
def next : List CountAnswer → CountAnswer
  | [] => .ok 0
  | answer :: _ => answer

/-- The script behind its next answer. -/
def after : List CountAnswer → List CountAnswer
  | _ :: answer :: rest => answer :: rest
  | script => script

/-- The stand-in as something that can be asked. -/
def repository : Repository ScriptedStore where
  countMatching id := fun s => (next s.script, ⟨after s.script, s.calls ++ [id]⟩)

/-- What can be asked of the stand-in besides a count. -/
inductive Command
  | calls

/-- The ids that the stand-in was asked for. -/
def perform : Command → StateM (Journaled ScriptedStore) (List String)
  | .calls => do return (← get).state.calls

end ScriptedStore

end Roster
