import Roster.Account.Identifier
import Roster.Journal

/-!
# The store in memory

A store that keeps its accounts in the order in which they came in.  It takes in every account,
also one whose id it holds already: whether an id is unique is for the rules to say.

* `MemoryStore.insert`, `MemoryStore.remove` — taking in one account, dropping all with an id.
* `MemoryStore.count` — how many accounts have an id.
* `MemoryStore.repository` — the store as something that rules can ask.
-/

set_option autoImplicit false

namespace Roster

/-- The accounts that are kept in memory, the oldest first. -/
structure MemoryStore where
  accounts : List Account
deriving DecidableEq

namespace MemoryStore

/-- The store with no accounts. -/
def empty : MemoryStore := ⟨[]⟩

/-- Takes in an account at the moment `now`, behind all others, and gives it as it is kept. -/
def insert (a : Account) (now : Instant) : StateM (Journaled MemoryStore) Account := do
  let kept := a.stamped now
  Traced.record (.stored a.id)
  Traced.silently (modify fun s => ⟨s.accounts ++ [kept]⟩)
  return kept

/-- Takes in accounts one after the other, each at its own moment. -/
def insertAll (accounts : List (Account × Instant)) :
    StateM (Journaled MemoryStore) (List Account) :=
  accounts.mapM fun (a, now) => insert a now

/-- How many accounts have an id. -/
def count (s : MemoryStore) (id : String) : Nat := s.accounts.countP (·.id == id)

/-- Drops every account with an id, and gives their number. -/
def remove (id : String) : StateM MemoryStore Nat := do
  let before ← get
  let left : MemoryStore := ⟨before.accounts.filter (·.id != id)⟩
  set left
  return before.accounts.length - left.accounts.length

/-- The number of accounts. -/
def size (s : MemoryStore) : Nat := s.accounts.length

/-- Whether there are no accounts. -/
def isEmpty (s : MemoryStore) : Bool := s.accounts.isEmpty

/-- The store as something that can be asked.  It always has an answer, and asking does not change
it. -/
def repository : Repository MemoryStore where
  countMatching id := do return .ok ((← get).count id)

/-- What can be asked of the store besides a count. -/
inductive Command
  | insert (a : Account) (now : Instant)
  | remove (id : String)
  | list
  | size

/-- What the store gives back for a command. -/
inductive Outcome
  | inserted (a : Account)
  | removed (count : Nat)
  | accounts (as : List Account)
  | size (count : Nat) (isEmpty : Bool)

/-- Carries out a command. -/
def perform : Command → StateM (Journaled MemoryStore) Outcome
  | .insert a now => do return .inserted (← insert a now)
  | .remove id => do return .removed (← Traced.silently (remove id))
  | .list => do return .accounts (← get).state.accounts
  | .size => do return .size (← get).state.size (← get).state.isEmpty

end MemoryStore

end Roster
