import Mathlib.Data.List.Nodup
import Roster.Proofs.Memory.Step

/-!
# Letting in only what was validated

The store in memory takes in whatever it is given.  This file is about callers who validate every
account as a new one before they store it, and never store one that did not pass.  As long as all
accounts come in that way, no id is held twice, whatever is removed or asked in between.

* `MemoryStore.create` — validating an account and storing it if it passed.
* `Deed` — the things such a caller does.
* `Guarded` — what is true of the accounts then.  Every deed keeps it (`Guarded.carryOut`).
* `guarded_store_keeps_ids_unique` — what follows for the answers of the store and of the rules.
-/

set_option autoImplicit false

namespace Roster
namespace MemoryStore

/-- Validates an account as a new one, and stores it only if nothing speaks against it. -/
def create (rules : StandardRules MemoryStore) (a : Account) (now : Instant) :
    StateM (Journaled MemoryStore) (Except (List RuleError) Account) := do
  match ← rules.ruleSet.validateNew a with
  | .error es => return .error es
  | .ok () => return .ok (← insert a now)

/-- What a caller does who stores accounts by `create` only. -/
inductive Deed
  | create (a : Account) (now : Instant)
  | remove (id : String)
  | list
  | size
  | count (id : String)
  | ask (q : Question)

/-- Does a deed in a session, and passes over the answer. -/
def Deed.carryOut (session : Session MemoryStore Command Outcome) :
    Deed → StateM (Journaled MemoryStore) Unit
  | .create a now => discard (MemoryStore.create session.rules a now)
  | .remove id => discard (session.step (.command (.remove id)))
  | .list => discard (session.step (.command .list))
  | .size => discard (session.step (.command .size))
  | .count id => discard (session.step (.count id))
  | .ask q => discard (session.step (.ask q))

/-! ## What one deed does -/

section Deeds

variable (holding : Holding) (config : RuleConfig) (t : Journaled MemoryStore)

/-- An account is stored if nothing speaks against it, and refused with all complaints otherwise. -/
theorem run_create (a : Account) (now : Instant) :
    (create (session holding config).rules a now).run t =
      match t.state.complaints config (.validateNew a) with
      | [] => (.ok (a.stamped now), ⟨⟨t.state.accounts ++ [a.stamped now]⟩,
          t.trace ++ t.state.entries (.validateNew a) ++ [.stored a.id]⟩)
      | e :: es => (.error (e :: es), ⟨t.state, t.trace ++ t.state.entries (.validateNew a)⟩) := by
  rw [create, StateT.run_bind, run_validateNew]
  cases t.state.complaints config (.validateNew a) <;> rfl

theorem run_create_error_iff {a : Account} {now : Instant} :
    (∃ es, ((create (session holding config).rules a now).run t).1 = .error es) ↔
      t.state.complaints config (.validateNew a) ≠ [] := by
  rw [run_create]
  cases t.state.complaints config (.validateNew a) <;> simp

/-- An account that is let in is given back with the moment it has from then on, which is its own if
it had one, and stands behind all others.  A refused one changes nothing. -/
theorem create_outcome (a : Account) (now : Instant) :
    let made := (create (session holding config).rules a now).run t
    match made.1 with
    | .ok kept => kept = { a with createdAt := some (a.createdAt.getD now) } ∧
        made.2.state.accounts = t.state.accounts ++ [kept]
    | .error _ => made.2.state = t.state := by
  rw [run_create]
  cases t.state.complaints config (.validateNew a) with
  | nil => exact ⟨rfl, rfl⟩
  | cons e es => rfl

/-- Only a new account against which nothing speaks, and a removal, change the accounts. -/
theorem state_carryOut (deed : Deed) :
    ((deed.carryOut (session holding config)).run t).2.state =
      match deed with
      | .create a now =>
        if t.state.complaints config (.validateNew a) = [] then
          ⟨t.state.accounts ++ [a.stamped now]⟩
        else t.state
      | .remove id => ⟨t.state.accounts.filter (·.id != id)⟩
      | _ => t.state := by
  cases deed with
  | create a now =>
    show ((create (session holding config).rules a now).run t).2.state = _
    rw [run_create]
    cases h : t.state.complaints config (.validateNew a) <;> simp [h]
  | remove id => exact state_step holding config t (.command (.remove id))
  | list => rfl
  | size => rfl
  | count id => rfl
  | ask q => exact state_step holding config t (.ask q)

end Deeds

/-! ## The invariant -/

/-- The accounts of a store that was filled by `create` only: each has an id of the right length and
the moment it was stored at, and no two have the same id. -/
structure Guarded (config : RuleConfig) (s : MemoryStore) : Prop where
  nodup : (s.accounts.map Account.id).Nodup
  valid : ∀ a ∈ s.accounts, a.id ≠ "" ∧ a.id.utf8ByteSize = config.idLength
  stamped : ∀ a ∈ s.accounts, a.createdAt.isSome

namespace Guarded

variable {config : RuleConfig} {s : MemoryStore}

theorem empty (config : RuleConfig) : Guarded config MemoryStore.empty :=
  ⟨List.nodup_nil, fun _ h => absurd h List.not_mem_nil, fun _ h => absurd h List.not_mem_nil⟩

/-- The rules let an account in only where its id is free, so the ids stay different. -/
theorem append (h : Guarded config s) {a : Account} (ha : s.complaints config (.validateNew a) = [])
    (now : Instant) : Guarded config ⟨s.accounts ++ [a.stamped now]⟩ := by
  obtain ⟨hid, hlen, hfree⟩ := complaints_validateNew_eq_nil_iff.mp ha
  have hnew : a.id ∉ s.accounts.map Account.id := by
    intro hmem
    obtain ⟨b, hb, hba⟩ := List.mem_map.mp hmem
    have := count_pos_iff.mpr ⟨b, hb, hba⟩
    omega
  refine ⟨?_, ?_, ?_⟩
  · rw [List.map_append]
    exact h.nodup.append (List.nodup_singleton _) (List.disjoint_singleton.mpr hnew)
  · intro b hb
    rcases List.mem_append.mp hb with hb | hb
    · exact h.valid b hb
    · rw [List.mem_singleton.mp hb]
      exact ⟨hid, hlen⟩
  · intro b hb
    rcases List.mem_append.mp hb with hb | hb
    · exact h.stamped b hb
    · rw [List.mem_singleton.mp hb]
      rfl

theorem filter (h : Guarded config s) (id : String) :
    Guarded config ⟨s.accounts.filter (·.id != id)⟩ :=
  ⟨h.nodup.sublist (List.filter_sublist.map _),
    fun a ha => h.valid a (List.mem_of_mem_filter ha),
    fun a ha => h.stamped a (List.mem_of_mem_filter ha)⟩

/-- **Every deed keeps the invariant.** -/
theorem carryOut {t : Journaled MemoryStore} (h : Guarded config t.state) (holding : Holding)
    (deed : Deed) :
    Guarded config ((deed.carryOut (session holding config)).run t).2.state := by
  rw [state_carryOut]
  cases deed with
  | create a now =>
    dsimp only
    split
    · next ha => exact h.append ha now
    · exact h
  | remove id => exact h.filter id
  | list => exact h
  | size => exact h
  | count id => exact h
  | ask q => exact h

/-- **So does every sequence of deeds.** -/
theorem run {t : Journaled MemoryStore} (h : Guarded config t.state) (holding : Holding)
    (deeds : List Deed) :
    Guarded config ((deeds.mapM (Deed.carryOut (session holding config))).run t).2.state := by
  induction deeds generalizing t with
  | nil => exact h
  | cons deed deeds ih =>
    rw [run_mapM_cons]
    exact ih (h.carryOut holding deed)

/-! ## What follows from it -/

theorem count_le_one (h : Guarded config s) (id : String) : s.count id ≤ 1 := by
  rw [count_eq]
  exact List.nodup_iff_count_le_one.mp h.nodup id

/-- No id has length zero, so a length of zero lets nothing in. -/
theorem accounts_eq_nil (h : Guarded config s) (hzero : config.idLength = 0) :
    s.accounts = [] := by
  refine List.eq_nil_iff_forall_not_mem.mpr fun a ha => ?_
  obtain ⟨hid, hlen⟩ := h.valid a ha
  exact hid (String.utf8ByteSize_eq_zero_iff.mp (hlen.trans hzero))

theorem complaints_eq_nil (h : Guarded config s) {a : Account} (ha : a ∈ s.accounts) :
    s.complaints config (.validateExisting a) = [] := by
  obtain ⟨hid, hlen⟩ := h.valid a ha
  have hpos : 0 < s.count a.id := count_pos_iff.mpr ⟨a, ha, rfl⟩
  have hle := h.count_le_one a.id
  exact complaints_validateExisting_eq_nil_iff.mpr ⟨hid, hlen, by omega⟩

end Guarded

/-- **A guarded store keeps its ids unique.**  Start with an empty store, and let accounts in by
`create` only, with any removals, questions and counts in between.  Then at every point

* the stored ids are different from each other, not empty and of the configured length, and every
  account has the moment it was stored at;
* the count for any id is zero or one;
* the rules for stored accounts find nothing wrong with an account that is listed;
* an account is refused exactly if its id is empty, has another length or is held already;
* an account that is not refused is kept behind all others, with the moment of its creation unless it
  has one, and this is what the caller is given back; a refused account leaves the store as it is;
* if the configured length is zero, there are no accounts. -/
theorem guarded_store_keeps_ids_unique (holding : Holding) (config : RuleConfig)
    (deeds : List Deed) :
    let session := session holding config
    let reached := ((deeds.mapM (Deed.carryOut session)).run (Traced.ofState empty)).2
    let listed := reached.state.accounts
    (session.step (.command .list)).run reached = (.outcome (.accounts listed), reached) ∧
      (listed.map Account.id).Nodup ∧
      (∀ a ∈ listed, a.id ≠ "" ∧ a.id.utf8ByteSize = config.idLength ∧ a.createdAt.isSome) ∧
      (∀ id, ∃ n, (session.step (.count id)).run reached = (.count (.ok n), reached) ∧
        (n = 0 ∨ n = 1)) ∧
      (∀ a ∈ listed, ((session.rules.ruleSet.validateExisting a).run reached).1 = .ok ()) ∧
      (∀ a now, (∃ es, ((create session.rules a now).run reached).1 = .error es) ↔
        a.id = "" ∨ a.id.utf8ByteSize ≠ config.idLength ∨ ∃ b ∈ listed, b.id = a.id) ∧
      (∀ a now, let made := (create session.rules a now).run reached
        match made.1 with
        | .ok kept => kept = { a with createdAt := some (a.createdAt.getD now) } ∧
            made.2.state.accounts = listed ++ [kept]
        | .error _ => made.2.state = reached.state) ∧
      (config.idLength = 0 → listed = []) := by
  intro session reached listed
  have h : Guarded config reached.state :=
    Guarded.run (t := Traced.ofState empty) (Guarded.empty config) holding deeds
  refine ⟨rfl, h.nodup, fun a ha => ?_, fun id => ?_, fun a ha => ?_, fun a now => ?_,
    create_outcome holding config reached, h.accounts_eq_nil⟩
  · obtain ⟨hid, hlen⟩ := h.valid a ha
    exact ⟨hid, hlen, h.stamped a ha⟩
  · have hle := h.count_le_one id
    exact ⟨reached.state.count id, rfl, by omega⟩
  · rw [run_validateExisting, h.complaints_eq_nil ha]
    rfl
  · rw [run_create_error_iff, ne_eq, complaints_validateNew_eq_nil_iff, ← count_pos_iff,
      Nat.pos_iff_ne_zero]
    tauto

end MemoryStore
end Roster
