/-!
# Repositories

A repository is anything that can be asked how many stored accounts hold an id.  It may fail to
answer, and asking may change it, so it is a state together with a query on that state.

* `Source` — what lies below an error, and `Source.chain`, the messages met on the way down.
* `StoreFailure` — why a store could not answer.
* `Repository` — a query on states of a given type.
* `Holding` — the ways of holding a repository that is kept elsewhere; none of them changes an
  answer (`through_eq`).
-/

set_option autoImplicit false

namespace Roster

/-! ## What lies below an error -/

/-- An error below another one: what it says, and what lies below it in turn. -/
inductive Source
  /-- Nothing lies below. -/
  | last (message : String)
  /-- One more error lies below. -/
  | above (message : String) (below : Source)

namespace Source

/-- What an error says. -/
def message : Source → String
  | .last message => message
  | .above message _ => message

/-- One step down. -/
def source? : Source → Option Source
  | .last _ => none
  | .above _ below => some below

/-- An error with this message, and below it the given one if there is one. -/
def link (message : String) : Option Source → Source
  | none => .last message
  | some below => .above message below

/-- The messages of an error and of all that lies below it, outermost first. -/
def messages : Source → List String
  | .last message => [message]
  | .above message below => message :: below.messages

/-- The messages met on the way down from an error whose source this is. -/
def chain : Option Source → List String
  | none => []
  | some s => s.messages

/-- Errors with these messages, each above the next. -/
def ofMessages? : List String → Option Source
  | [] => none
  | message :: rest => some (link message (ofMessages? rest))

/-- The way down is walked step by step: a message, and the way down from the next source. -/
theorem chain_some (s : Source) : chain (some s) = s.message :: chain s.source? := by
  cases s <;> rfl

@[simp]
theorem message_link (message : String) (below : Option Source) :
    (link message below).message = message := by
  cases below <;> rfl

@[simp]
theorem source?_link (message : String) (below : Option Source) :
    (link message below).source? = below := by
  cases below <;> rfl

/-- The way down from errors with the given messages meets these messages, each once and in their
order. -/
theorem chain_ofMessages? (messages : List String) : chain (ofMessages? messages) = messages := by
  induction messages with
  | nil => rfl
  | cons message rest ih => rw [ofMessages?, chain_some, message_link, source?_link, ih]

end Source

/-- The report of a store that could not answer: its message, and the messages of the causes below
it, outermost first.  Whoever holds the report sees the causes by going down from it step by step. -/
structure StoreFailure where
  message : String
  causes : List String
deriving DecidableEq

/-- One step down from a store's failure, to the outermost of its causes. -/
def StoreFailure.source? (failure : StoreFailure) : Option Source :=
  Source.ofMessages? failure.causes

/-- The way down from a store's failure meets the causes that the store gave. -/
theorem StoreFailure.chain_source? (failure : StoreFailure) :
    Source.chain failure.source? = failure.causes :=
  Source.chain_ofMessages? failure.causes

/-! ## Queries -/

/-- The answer to a query: how many stored accounts hold the id, or why the store cannot tell. -/
abbrev CountAnswer := Except StoreFailure Nat

/-- Read access to stored accounts whose store has states of type `σ`. -/
structure Repository (σ : Type) where
  /-- How many stored accounts have exactly this id. -/
  countMatching : String → StateM σ CountAnswer

/-- A way of holding a repository: the repository itself, or a borrowed, an owned or a shared hold
on something that holds it. -/
inductive Holding
  | direct
  | borrowed (inner : Holding)
  | owned (inner : Holding)
  | shared (inner : Holding)
deriving DecidableEq

/-- The repository that a hold offers: every layer hands the query on. -/
def Repository.through {σ : Type} (r : Repository σ) : Holding → Repository σ
  | .direct => r
  | .borrowed inner => ⟨fun id => (r.through inner).countMatching id⟩
  | .owned inner => ⟨fun id => (r.through inner).countMatching id⟩
  | .shared inner => ⟨fun id => (r.through inner).countMatching id⟩

/-- Through however many layers, a repository answers as it does directly. -/
theorem Repository.through_eq {σ : Type} (r : Repository σ) (h : Holding) : r.through h = r := by
  induction h with
  | direct => rfl
  | borrowed inner ih => rw [through, ih]
  | owned inner ih => rw [through, ih]
  | shared inner ih => rw [through, ih]

end Roster
