import Roster.Proofs.Account.Identifier
import Roster.Proofs.Memory.Lifecycle

/-!
# Registered accounts under the default rules

An account that is registered with a generated id always has an id that the default rules accept as
it is.  What is left to them is whether the id is free.

* `Identifier.generate_fits` — a generated id is there and has the default length.
* `registered_account` — the shape of the id, which draws give the same one, and what the default
  rules say about the account in any store.
-/

set_option autoImplicit false

namespace Roster

/-- A generated id is there, and it is as long as the default rules want it. -/
theorem Identifier.generate_fits (bytes : Vector UInt8 16) :
    generate bytes ≠ "" ∧ (generate bytes).utf8ByteSize = RuleConfig.default.idLength := by
  have hsize := utf8ByteSize_of_isRandom (isRandom_generate bytes)
  refine ⟨fun hempty => ?_, hsize⟩
  rw [hempty] at hsize
  exact absurd hsize (by decide)

namespace MemoryStore

section Fitting

variable {config : RuleConfig} {start : MemoryStore} {steps : List (Step Command)} {a : Account}
  (holding : Holding)

/-- An account that comes in is one more for its id. -/
theorem count_insert (now : Instant) :
    ((session holding config).run (steps ++ [.command (.insert a now)]) start).2.count a.id =
      ((session holding config).run steps start).2.count a.id + 1 := by
  have hstored : ((session holding config).run (steps ++ [.command (.insert a now)]) start).2 =
      ⟨((session holding config).run steps start).2.accounts ++ [a.stamped now]⟩ := by
    rw [state_run, state_run, List.foldl_append]
    rfl
  rw [hstored, count_append, Account.id_stamped, if_pos rfl]

/-- Where an id was free, storing an account with it and removing the id changes nothing. -/
theorem state_insert_remove (now : Instant)
    (hfree : ((session holding config).run steps start).2.count a.id = 0) :
    ((session holding config).run
        (steps ++ [.command (.insert a now)] ++ [.command (.remove a.id)]) start).2 =
      ((session holding config).run steps start).2 := by
  have hremoved : ((session holding config).run
      (steps ++ [.command (.insert a now)] ++ [.command (.remove a.id)]) start).2 =
      (⟨((session holding config).run steps start).2.accounts ++ [a.stamped now]⟩ :
        MemoryStore).without (a.stamped now).id := by
    rw [state_run, state_run, List.foldl_append, List.foldl_append]
    rfl
  rw [hremoved, without_append, Account.id_stamped, without_eq_self hfree]

/-- Removing an id gives the number of its accounts. -/
theorem takes_remove (id : String) :
    (session holding config).Takes start steps (.command (.remove id))
      (.outcome (.removed (((session holding config).run steps start).2.count id))) []
      ((session holding config).run (steps ++ [.command (.remove id)]) start).2 := by
  refine Session.takes_of_step _ rfl ?_
  rw [run_command_remove, state_run, state_run, List.foldl_append]
  rfl

variable (hid : a.id ≠ "") (hlen : a.id.utf8ByteSize = config.idLength)
include hid hlen

/-- Where its id is free, an account whose id fits passes as a stored one once it is stored, and is
gone without a trace once its id is removed. -/
theorem judged_stored_and_removed
    (hfree : ((session holding config).run steps start).2.count a.id = 0) (now : Instant) :
    let stored := steps ++ [.command (.insert a now)]
    let removed := stored ++ [.command (.remove a.id)]
    Judged (session holding config) start stored a 1 (.error [.alreadyExists 1]) (.ok ()) ∧
      (session holding config).Takes start stored (.command (.remove a.id))
        (.outcome (.removed 1)) [] ((session holding config).run steps start).2 ∧
      Judged (session holding config) start removed a 0 (.ok ()) (.error [.notUnique 0]) := by
  intro stored removed
  have hone : ((session holding config).run stored start).2.count a.id = 1 := by
    rw [count_insert, hfree]
  have hsame : ((session holding config).run removed start).2 =
      ((session holding config).run steps start).2 := state_insert_remove holding now hfree
  refine ⟨judged_of_held_once holding hid hlen hone, ?_,
    judged_of_free holding hid hlen (hsame ▸ hfree)⟩
  have hremove : (session holding config).Takes start stored (.command (.remove a.id)) _ [] _ :=
    takes_remove holding a.id
  rwa [hone, hsame] at hremove

end Fitting

/-- **Registered accounts are right for the default rules.**  Take any random bytes and a nickname,
and any session on a store that was filled with any accounts.

* The id that the bytes make has the shape of a random UUID, in thirty-six bytes, and other bytes
  make the same id exactly if they agree on the bits that the version and the variant leave free,
  which are 122.
* The account has the nickname, and no moment at which it was stored.
* As a new account it passes exactly if no stored account has its id; otherwise the only objection
  is the number of those that have it.
* If none has it and the account is stored, it passes as a stored one.  Removing its id then drops
  one account, and leaves a store in which the id is free as before. -/
theorem registered_account (bytes : Vector UInt8 16) (nickname : String)
    (initial : List (Account × Instant)) (holding : Holding) (steps : List (Step Command)) :
    let a := Account.register nickname bytes
    let session := session holding .default
    let start := filled initial
    let reached := (session.run steps start).2
    let held := reached.count a.id
    (Identifier.isRandom a.id = true ∧ a.id.utf8ByteSize = 36 ∧
      Identifier.freeBits.length = 122 ∧
      ∀ other : Vector UInt8 16, (Account.register nickname other).id = a.id ↔
        ∀ p ∈ Identifier.freeBits, Identifier.bit other p = Identifier.bit bytes p) ∧
    (a.nickname = nickname ∧ a.createdAt = none) ∧
    (held = 0 ↔ ∀ b ∈ reached.accounts, b.id ≠ a.id) ∧
    Judged session start steps a held
      (if held = 0 then .ok () else .error [.alreadyExists held])
      (if held = 1 then .ok () else .error [.notUnique held]) ∧
    (held = 0 → ∀ now : Instant,
      let stored := steps ++ [.command (.insert a now)]
      let removed := stored ++ [.command (.remove a.id)]
      Judged session start stored a 1 (.error [.alreadyExists 1]) (.ok ()) ∧
        session.Takes start stored (.command (.remove a.id)) (.outcome (.removed 1)) [] reached ∧
        Judged session start removed a 0 (.ok ()) (.error [.notUnique 0])) := by
  intro a session start reached held
  have hrandom : Identifier.isRandom a.id = true := Identifier.isRandom_generate bytes
  have hfits : a.id ≠ "" ∧ a.id.utf8ByteSize = RuleConfig.default.idLength :=
    Identifier.generate_fits bytes
  exact ⟨⟨hrandom, Identifier.utf8ByteSize_of_isRandom hrandom, Identifier.length_freeBits,
      fun other => Identifier.generate_eq_iff⟩, ⟨rfl, rfl⟩, count_eq_zero_iff,
    judged_of_fits holding hfits.1 hfits.2 rfl,
    fun hfree now => judged_stored_and_removed holding hfits.1 hfits.2 hfree now⟩

/-- An account that is registered next to one whose bytes differ from its own in a free bit, the
lowest of all, and to one with another kind of id. -/
theorem registered_next_to_another :
    let noon : Instant :=
      ⟨⟨2026, 6, 1, by decide⟩, 720, 0, 0, by decide, by decide, by decide⟩
    let bytes : Vector UInt8 16 := .replicate 16 0
    let a := Account.register "Zezima" bytes
    let initial := [(Account.register "first" (bytes.set 15 1), noon), (⟨"aa", "", none⟩, noon)]
    let stored : List (Step Command) := [.count a.id, .command (.insert a noon)]
    a.id = "00000000-0000-4000-8000-000000000000" ∧
      (filled initial).count a.id = 0 ∧
      Judged (session (.shared .direct) .default) (filled initial) stored a 1
        (.error [.alreadyExists 1]) (.ok ()) := by
  intro noon bytes a initial stored
  have hid : a.id = "00000000-0000-4000-8000-000000000000" := by decide +kernel
  have hfree : (filled initial).count a.id = 0 := by decide +kernel
  have hlife := (registered_account bytes "Zezima" initial (.shared .direct) [.count a.id]).2.2.2.2
  exact ⟨hid, hfree, (hlife hfree noon).1⟩

end MemoryStore
end Roster
