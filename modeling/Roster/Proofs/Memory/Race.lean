import Mathlib.Data.Fintype.Basic
import Mathlib.Data.Finset.Card
import Roster.Proofs.Memory.Step

/-!
# Racing for an id

Validating an account and storing it are two steps, and other clients of the store may take theirs
in between.  This file lets any number of clients take their steps in any order, and says when an
id ends up stored more than once.

* `Clients` — the clients of a store, and `Race`, the store and how far each of them has come.
* `Clients.turn` — the next step of one client.  It is one of three things (`Clients.turn_cases`),
  and everything else about turns rests on that.
* `Accounted` — how the counts of the store and the progress of the clients hang together.  Every
  turn keeps it (`Accounted.turn`), and so does every schedule (`Accounted.run`).
* `Barred` — a client that has not passed when its id is held.  It never will (`Barred.run`).
* `races_are_overlaps` — the counts, which checks pass, which clients may store the same id, and
  what the rules say about it afterwards.
-/

set_option autoImplicit false

namespace Roster
namespace MemoryStore

/-! ## Clients and their turns -/

/-- How far a client has come that validates its account as a new one and then stores it. -/
inductive Progress
  /-- It did nothing yet. -/
  | waiting
  /-- It has validated its account, with this result. -/
  | checked (result : ValidationResult)
  /-- It has stored its account, which is kept like this. -/
  | stored (kept : Account)

/-- Whether a client has stored its account. -/
def Progress.isStored : Progress → Bool
  | waiting | checked _ => false
  | stored _ => true

/-- Whether a client has nothing left to do. -/
def Progress.isFinished : Progress → Bool
  | waiting | checked (.ok ()) => false
  | checked (.error _) | stored _ => true

/-- A store with its journal, and how far each of its `n` clients has come. -/
structure Race (n : Nat) where
  store : Journaled MemoryStore
  progress : Fin n → Progress

/-- A store whose clients did nothing yet. -/
def Race.start {n : Nat} (s : MemoryStore) : Race n := ⟨Traced.ofState s, fun _ => .waiting⟩

/-- How many accounts have an id. -/
def Race.count {n : Nat} (r : Race n) (id : String) : Nat := r.store.state.count id

/-- The clients of a store: how they hold it, how their rules are configured, and the account that
each of them has. -/
structure Clients (n : Nat) where
  holding : Holding
  config : RuleConfig
  account : Fin n → Account

namespace Clients

variable {n : Nat} (clients : Clients n)

/-- The rules that all clients share. -/
def rules : StandardRules MemoryStore := (session clients.holding clients.config).rules

/-- The next step of a client: it validates its account, or stores it if the validation passed.
A client that has nothing left to do lets its turn pass. -/
def turn (r : Race n) (i : Fin n) (now : Instant) : Race n :=
  match r.progress i with
  | .waiting =>
    let checked := (clients.rules.ruleSet.validateNew (clients.account i)).run r.store
    ⟨checked.2, Function.update r.progress i (.checked checked.1)⟩
  | .checked (.ok ()) =>
    let stored := (insert (clients.account i) now).run r.store
    ⟨stored.2, Function.update r.progress i (.stored stored.1)⟩
  | .checked (.error _) | .stored _ => r

/-- The turns of a schedule, one after the other, each at its own moment. -/
def run (r : Race n) (schedule : List (Fin n × Instant)) : Race n :=
  schedule.foldl (fun r (i, now) => clients.turn r i now) r

/-- The clients that have stored an account with an id. -/
def inserted (r : Race n) (id : String) : Finset (Fin n) :=
  Finset.univ.filter fun i => (r.progress i).isStored = true ∧ (clients.account i).id = id

theorem run_cons (r : Race n) (i : Fin n) (now : Instant) (rest : List (Fin n × Instant)) :
    clients.run r ((i, now) :: rest) = clients.run (clients.turn r i now) rest := rfl

theorem run_append (r : Race n) (before after : List (Fin n × Instant)) :
    clients.run r (before ++ after) = clients.run (clients.run r before) after :=
  List.foldl_append

/-- What speaks against the account of a client, going by a store. -/
def complaints (r : Race n) (i : Fin n) : List RuleError :=
  r.store.state.complaints clients.config (.validateNew (clients.account i))

/-- **What a turn does.**  A client that waits validates its account, one that passed stores it, and
for one that is finished nothing happens. -/
theorem turn_cases (r : Race n) (i : Fin n) (now : Instant) :
    (r.progress i = .waiting ∧ (clients.turn r i now).store.state = r.store.state ∧
      (clients.turn r i now).progress =
        Function.update r.progress i (.checked (.ofComplaints (clients.complaints r i)))) ∨
    (r.progress i = .checked (.ok ()) ∧ (clients.turn r i now).store.state =
        ⟨r.store.state.accounts ++ [(clients.account i).stamped now]⟩ ∧
      (clients.turn r i now).progress =
        Function.update r.progress i (.stored ((clients.account i).stamped now))) ∨
    ((r.progress i).isFinished = true ∧ clients.turn r i now = r) := by
  rw [turn]
  cases h : r.progress i with
  | waiting =>
    refine .inl ⟨rfl, ?_⟩
    simp only [rules, run_validateNew, complaints, and_self]
  | checked result =>
    cases result with
    | ok _ => exact .inr (.inl ⟨rfl, rfl, rfl⟩)
    | error es => exact .inr (.inr ⟨rfl, rfl⟩)
  | stored kept => exact .inr (.inr ⟨rfl, rfl⟩)

variable {clients} {r : Race n}

/-- A check passes exactly if the id is there, has the right length, and is free. -/
theorem check_eq_ok_iff {i : Fin n} :
    ValidationResult.ofComplaints (clients.complaints r i) = .ok () ↔
      (clients.account i).id ≠ "" ∧
        (clients.account i).id.utf8ByteSize = clients.config.idLength ∧
        r.count (clients.account i).id = 0 := by
  rw [ofComplaints_eq_ok_iff, complaints, complaints_validateNew_eq_nil_iff, Race.count]

/-- A check that finds the id held says by how many, after what it has to say about the length. -/
theorem check_of_held {i : Fin n} (hid : (clients.account i).id ≠ "")
    (hheld : 0 < r.count (clients.account i).id) :
    ValidationResult.ofComplaints (clients.complaints r i) =
      .error (clients.config.misfits (clients.account i) ++
        [.alreadyExists (r.count (clients.account i).id)]) := by
  have hsome : r.store.state.count (clients.account i).id ≠ 0 := Nat.ne_of_gt hheld
  rw [complaints, complaints_validateNew, if_neg hid, if_neg hsome]
  cases clients.config.misfits (clients.account i) <;> rfl

theorem progress_turn_of_waiting {i : Fin n} (h : r.progress i = .waiting) (now : Instant) :
    (clients.turn r i now).progress i = .checked (.ofComplaints (clients.complaints r i)) := by
  rcases clients.turn_cases r i now with ⟨-, -, hprogress⟩ | ⟨hi, -, -⟩ | ⟨hi, -⟩
  · rw [hprogress, Function.update_self]
  · simp [h] at hi
  · simp [h, Progress.isFinished] at hi

theorem isStored_turn_of_cleared {i : Fin n} (h : r.progress i = .checked (.ok ()))
    (now : Instant) : ((clients.turn r i now).progress i).isStored = true := by
  rcases clients.turn_cases r i now with ⟨hi, -, -⟩ | ⟨-, -, hprogress⟩ | ⟨hi, -⟩
  · simp [h] at hi
  · rw [hprogress, Function.update_self, Progress.isStored]
  · simp [h, Progress.isFinished] at hi

/-- **No turn lets a count go down.** -/
theorem count_le_turn (i : Fin n) (now : Instant) (id : String) :
    r.count id ≤ (clients.turn r i now).count id := by
  rw [Race.count, Race.count]
  rcases clients.turn_cases r i now with ⟨-, hstore, -⟩ | ⟨-, hstore, -⟩ | ⟨-, hsame⟩
  · rw [hstore]
  · rw [hstore, count_append]
    exact Nat.le_add_right _ _
  · rw [hsame]

theorem count_le_run (schedule : List (Fin n × Instant)) (id : String) :
    r.count id ≤ (clients.run r schedule).count id := by
  induction schedule generalizing r with
  | nil => exact Nat.le_refl _
  | cons first rest ih => exact Nat.le_trans (count_le_turn first.1 first.2 id) ih

/-- A turn of one client leaves the others where they are. -/
theorem progress_turn_of_ne {i j : Fin n} (h : j ≠ i) (now : Instant) :
    (clients.turn r i now).progress j = r.progress j := by
  rcases clients.turn_cases r i now with ⟨-, -, hprogress⟩ | ⟨-, -, hprogress⟩ | ⟨-, hsame⟩
  · rw [hprogress, Function.update_of_ne h]
  · rw [hprogress, Function.update_of_ne h]
  · rw [hsame]

/-- A turn of a client that is finished changes nothing. -/
theorem turn_of_isFinished {i : Fin n} (h : (r.progress i).isFinished = true) (now : Instant) :
    clients.turn r i now = r := by
  rcases clients.turn_cases r i now with ⟨hi, -, -⟩ | ⟨hi, -, -⟩ | ⟨-, hsame⟩
  · simp [hi, Progress.isFinished] at h
  · simp [hi, Progress.isFinished] at h
  · exact hsame

/-- A client that was refused stays so. -/
theorem progress_turn_of_refused {j : Fin n} {es : List RuleError}
    (h : r.progress j = .checked (.error es)) (i : Fin n) (now : Instant) :
    (clients.turn r i now).progress j = .checked (.error es) := by
  by_cases hji : j = i
  · subst hji
    rw [turn_of_isFinished (by rw [h, Progress.isFinished]), h]
  · rw [progress_turn_of_ne hji, h]

theorem progress_run_of_refused {j : Fin n} {es : List RuleError}
    (h : r.progress j = .checked (.error es)) (schedule : List (Fin n × Instant)) :
    (clients.run r schedule).progress j = .checked (.error es) := by
  induction schedule generalizing r with
  | nil => exact h
  | cons first rest ih => exact ih (progress_turn_of_refused h first.1 first.2)

/-- A client that has stored its account was let through before, at a turn of its own. -/
theorem exists_turn_of_stored {j : Fin n} {schedule : List (Fin n × Instant)}
    (hbefore : (r.progress j).isStored = false)
    (hafter : ((clients.run r schedule).progress j).isStored = true) :
    ∃ before now after, schedule = before ++ (j, now) :: after ∧
      (clients.run r before).progress j = .checked (.ok ()) := by
  induction schedule generalizing r with
  | nil => exact absurd hafter (by simp [run, hbefore])
  | cons first rest ih =>
    obtain ⟨i, now⟩ := first
    cases hturn : ((clients.turn r i now).progress j).isStored with
    | false =>
      obtain ⟨before, now', after, hrest, hcleared⟩ := ih hturn hafter
      exact ⟨(i, now) :: before, now', after, by rw [hrest, List.cons_append], hcleared⟩
    | true =>
      -- this is the turn: nobody else's makes `j` store its account, and none but its second
      by_cases hji : j = i
      · subst hji
        rcases clients.turn_cases r j now with ⟨-, -, hprogress⟩ | ⟨hcleared, -, -⟩ | ⟨-, hsame⟩
        · rw [hprogress, Function.update_self, Progress.isStored] at hturn
          exact absurd hturn Bool.false_ne_true
        · exact ⟨[], now, rest, rfl, hcleared⟩
        · rw [hsame, hbefore] at hturn
          exact absurd hturn Bool.false_ne_true
      · rw [progress_turn_of_ne hji, hbefore] at hturn
        exact absurd hturn Bool.false_ne_true

/-! ## The clients that have stored an id -/

theorem mem_inserted {id : String} {i : Fin n} :
    i ∈ clients.inserted r id ↔ (r.progress i).isStored = true ∧ (clients.account i).id = id := by
  simp [inserted]

theorem inserted_eq_of_checked {r' : Race n} {i : Fin n} {result : ValidationResult}
    (hprogress : r'.progress = Function.update r.progress i (.checked result))
    (hi : (r.progress i).isStored = false) (id : String) :
    clients.inserted r' id = clients.inserted r id := by
  ext j
  rw [mem_inserted, mem_inserted, hprogress]
  by_cases hj : j = i
  · rw [hj, Function.update_self, hi]
    simp [Progress.isStored]
  · rw [Function.update_of_ne hj]

theorem card_inserted_of_stored {r' : Race n} {i : Fin n} {kept : Account}
    (hprogress : r'.progress = Function.update r.progress i (.stored kept))
    (hi : (r.progress i).isStored = false) (id : String) :
    (clients.inserted r' id).card =
      (clients.inserted r id).card + if (clients.account i).id = id then 1 else 0 := by
  have hother : ∀ j, j ≠ i → (j ∈ clients.inserted r' id ↔ j ∈ clients.inserted r id) := by
    intro j hj
    rw [mem_inserted, mem_inserted, hprogress, Function.update_of_ne hj]
  have hnot : i ∉ clients.inserted r id := by simp [mem_inserted, hi]
  have hself : i ∈ clients.inserted r' id ↔ (clients.account i).id = id := by
    rw [mem_inserted, hprogress, Function.update_self]
    simp [Progress.isStored]
  split
  · next hid =>
    have heq : clients.inserted r' id = Insert.insert i (clients.inserted r id) := by
      ext j
      by_cases hj : j = i
      · simp [hj, hself, hid]
      · simp [hj, hother j hj]
    rw [heq, Finset.card_insert_of_notMem hnot]
  · next hid =>
    have heq : clients.inserted r' id = clients.inserted r id := by
      ext j
      by_cases hj : j = i
      · rw [hj]
        exact iff_of_false (fun h => hid (hself.mp h)) hnot
      · exact hother j hj
    rw [heq, Nat.add_zero]

end Clients

/-! ## Counts and progress -/

section Invariants

variable {n : Nat} {clients : Clients n} {s : MemoryStore} {r : Race n}

/-- How the counts and the progress hang together when the clients found a store `s`. -/
structure Accounted (clients : Clients n) (s : MemoryStore) (r : Race n) : Prop where
  /-- What came in was stored by clients. -/
  count : ∀ id, r.count id = s.count id + (clients.inserted r id).card
  /-- A client that was refused has an id that is missing, of the wrong length, or held. -/
  refused : ∀ i es, r.progress i = .checked (.error es) →
    (clients.account i).id = "" ∨
      (clients.account i).id.utf8ByteSize ≠ clients.config.idLength ∨
      0 < r.count (clients.account i).id

theorem Accounted.start (clients : Clients n) (s : MemoryStore) :
    Accounted clients s (Race.start s) := by
  refine ⟨fun id => ?_, fun i es h => ?_⟩
  · have hnone : clients.inserted (Race.start s) id = ∅ := by
      ext i
      simp [Clients.mem_inserted, Race.start, Progress.isStored]
    rw [hnone, Finset.card_empty]
    rfl
  · simp [Race.start] at h

/-- What comes in at a turn was stored by the client whose turn it is. -/
theorem Accounted.count_turn (h : Accounted clients s r) (i : Fin n) (now : Instant) (id : String) :
    (clients.turn r i now).count id =
      s.count id + (clients.inserted (clients.turn r i now) id).card := by
  rcases clients.turn_cases r i now with ⟨hi, hstore, hprogress⟩ | ⟨hi, hstore, hprogress⟩ |
    ⟨-, hsame⟩
  · rw [Race.count, hstore,
      Clients.inserted_eq_of_checked hprogress (by rw [hi, Progress.isStored])]
    exact h.count id
  · rw [Race.count, hstore, count_append,
      Clients.card_inserted_of_stored hprogress (by rw [hi, Progress.isStored]),
      Account.id_stamped, ← Nat.add_assoc, ← h.count]
    rfl
  · rw [hsame]
    exact h.count id

/-- A client that is refused at a turn has one of the three faults, and one that was refused before
keeps it. -/
theorem Accounted.refused_turn (h : Accounted clients s r) (i : Fin n) (now : Instant) (j : Fin n)
    (es : List RuleError) (hj : (clients.turn r i now).progress j = .checked (.error es)) :
    (clients.account j).id = "" ∨
      (clients.account j).id.utf8ByteSize ≠ clients.config.idLength ∨
      0 < (clients.turn r i now).count (clients.account j).id := by
  by_cases hji : j = i
  · subst hji
    rcases clients.turn_cases r j now with ⟨-, hstore, hprogress⟩ | ⟨-, -, hprogress⟩ | ⟨-, hsame⟩
    · rw [hprogress, Function.update_self, Progress.checked.injEq] at hj
      have hfault : ¬ ((clients.account j).id ≠ "" ∧
          (clients.account j).id.utf8ByteSize = clients.config.idLength ∧
          r.count (clients.account j).id = 0) := by
        rw [← Clients.check_eq_ok_iff, hj]
        simp
      rw [Race.count, hstore, Nat.pos_iff_ne_zero]
      tauto
    · rw [hprogress, Function.update_self] at hj
      exact Progress.noConfusion hj
    · rw [hsame] at hj ⊢
      exact h.refused j es hj
  · rw [Clients.progress_turn_of_ne hji] at hj
    exact (h.refused j es hj).imp_right fun hfault =>
      hfault.imp_right fun hpos => Nat.lt_of_lt_of_le hpos (Clients.count_le_turn i now _)

/-- **Every turn keeps the books.** -/
theorem Accounted.turn (h : Accounted clients s r) (i : Fin n) (now : Instant) :
    Accounted clients s (clients.turn r i now) :=
  ⟨h.count_turn i now, h.refused_turn i now⟩

/-- **So does every schedule.** -/
theorem Accounted.run (h : Accounted clients s r) (schedule : List (Fin n × Instant)) :
    Accounted clients s (clients.run r schedule) := by
  induction schedule generalizing r with
  | nil => exact h
  | cons first rest ih => exact ih (h.turn first.1 first.2)

/-- A client that did not pass a check while its id is held. -/
structure Barred (clients : Clients n) (r : Race n) (i : Fin n) : Prop where
  held : 0 < r.count (clients.account i).id
  outside : r.progress i = .waiting ∨ ∃ es, r.progress i = .checked (.error es)

theorem Barred.turn {j : Fin n} (h : Barred clients r j) (i : Fin n) (now : Instant) :
    Barred clients (clients.turn r i now) j := by
  refine ⟨Nat.lt_of_lt_of_le h.held (Clients.count_le_turn i now _), ?_⟩
  by_cases hji : j = i
  · subst hji
    rcases h.outside with hwaiting | ⟨es, hes⟩
    · -- its own check comes when the id is held already
      rw [Clients.progress_turn_of_waiting hwaiting]
      cases hcheck : ValidationResult.ofComplaints (clients.complaints r j) with
      | ok _ => exact absurd (Clients.check_eq_ok_iff.mp hcheck).2.2 (Nat.ne_of_gt h.held)
      | error es => exact .inr ⟨es, rfl⟩
    · exact .inr ⟨es, Clients.progress_turn_of_refused hes j now⟩
  · rw [Clients.progress_turn_of_ne hji]
    exact h.outside

/-- **Who came too late never stores its account.** -/
theorem Barred.run {j : Fin n} (h : Barred clients r j) (schedule : List (Fin n × Instant)) :
    Barred clients (clients.run r schedule) j := by
  induction schedule generalizing r with
  | nil => exact h
  | cons first rest ih => exact ih (h.turn first.1 first.2)

theorem Barred.isStored_eq_false {i : Fin n} (h : Barred clients r i) :
    (r.progress i).isStored = false := by
  rcases h.outside with hw | ⟨es, hes⟩
  · rw [hw]
    rfl
  · rw [hes]
    rfl

/-- An id is free at a point if nobody had it at first and no client has stored it by then. -/
theorem Accounted.count_eq_zero_iff (h : Accounted clients s r) (id : String) :
    r.count id = 0 ↔ s.count id = 0 ∧ clients.inserted r id = ∅ := by
  rw [h.count, Nat.add_eq_zero_iff, Finset.card_eq_zero]

/-- Once a client is through, an id that is there and has the right length is held. -/
theorem Accounted.count_pos_of_isFinished (h : Accounted clients s r) {i : Fin n}
    (hid : (clients.account i).id ≠ "")
    (hlen : (clients.account i).id.utf8ByteSize = clients.config.idLength)
    (hi : (r.progress i).isFinished = true) : 0 < r.count (clients.account i).id := by
  cases hp : r.progress i with
  | waiting => simp [hp, Progress.isFinished] at hi
  | stored kept =>
    have hmem : i ∈ clients.inserted r (clients.account i).id :=
      Clients.mem_inserted.mpr ⟨by rw [hp, Progress.isStored], rfl⟩
    have hpos := Finset.card_pos.mpr ⟨i, hmem⟩
    rw [h.count]
    omega
  | checked result =>
    cases result with
    | ok _ => simp [hp, Progress.isFinished] at hi
    | error es =>
      rcases h.refused i es hp with hmissing | hwrong | hheld
      · exact absurd hmissing hid
      · exact absurd hlen hwrong
      · exact hheld

/-- **Two clients store the same id only if they overlap.**  When the second of them stores its
account, the first has been through its check for long. -/
theorem exists_overlap {schedule : List (Fin n × Instant)} {i j : Fin n} (hij : i ≠ j)
    (hsame : (clients.account i).id = (clients.account j).id)
    (hi : ((clients.run (Race.start s) schedule).progress i).isStored = true)
    (hj : ((clients.run (Race.start s) schedule).progress j).isStored = true) :
    ∃ before now after, schedule = before ++ (j, now) :: after ∧
      (clients.run (Race.start s) before).progress j = .checked (.ok ()) ∧
      (clients.run (Race.start s) before).progress i ≠ .waiting := by
  obtain ⟨before, now, after, hschedule, hcleared⟩ := Clients.exists_turn_of_stored rfl hj
  refine ⟨before, now, after, hschedule, hcleared, fun hwaiting => ?_⟩
  -- if `i` still waited, it would find the id held by what `j` stores now, and be barred from it
  rw [hschedule, Clients.run_append, Clients.run_cons] at hi
  have hstored : j ∈ clients.inserted
      (clients.turn (clients.run (Race.start s) before) j now) (clients.account i).id :=
    Clients.mem_inserted.mpr ⟨Clients.isStored_turn_of_cleared hcleared now, hsame.symm⟩
  have hbooks := ((Accounted.start clients s).run before).turn j now
  have hheld : (clients.turn (clients.run (Race.start s) before) j now).count
      (clients.account i).id ≠ 0 := fun hzero =>
    Finset.ne_empty_of_mem hstored ((hbooks.count_eq_zero_iff _).mp hzero).2
  have hstill : (clients.turn (clients.run (Race.start s) before) j now).progress i = .waiting := by
    rw [Clients.progress_turn_of_ne hij, hwaiting]
  have hbarred : Barred clients _ i := ⟨Nat.pos_of_ne_zero hheld, .inl hstill⟩
  rw [(hbarred.run after).isStored_eq_false] at hi
  exact Bool.false_ne_true hi

end Invariants

/-! ## What comes of a race -/

/-- **Races for an id are overlaps, and they show.**  Any number of clients share a store with any
accounts in it and one configuration of the rules.  Each validates its own account as a new one and
stores it if the validation passed, and their steps may come in any order.  Then

* the count of an id never goes down, and what comes on top of the accounts that were there at
  first is the number of clients that stored the id;
* a check passes exactly if the id is there, has the right length and is held by nobody, which means
  that it was not there at first and that no client has stored it before;
* a check that finds the id held is refused with the number of accounts that hold it at that
  moment among the complaints, and the client never stores its account;
* when of two clients that stored the same id one stores it, the other has been through its check;
* once a client is through, its id is held, if it is there and has the right length;
* an id that is held more than once is reported by the rules for stored accounts, with the number
  of accounts that hold it. -/
theorem races_are_overlaps {n : Nat} (s : MemoryStore) (clients : Clients n)
    (schedule : List (Fin n × Instant)) :
    let reached := fun turns => clients.run (Race.start s) turns
    let last := reached schedule
    (∀ before after, schedule = before ++ after →
        ∀ id, (reached before).count id ≤ last.count id) ∧
      (∀ id, last.count id = s.count id + (clients.inserted last id).card) ∧
      (∀ before i now after, schedule = before ++ (i, now) :: after →
        (reached before).progress i = .waiting →
        let a := clients.account i
        let held := (reached before).count a.id
        ∃ result, (reached (before ++ [(i, now)])).progress i = .checked result ∧
          (result = .ok () ↔
            a.id ≠ "" ∧ a.id.utf8ByteSize = clients.config.idLength ∧ held = 0) ∧
          (held = 0 ↔ s.count a.id = 0 ∧ clients.inserted (reached before) a.id = ∅) ∧
          (a.id ≠ "" → 0 < held → ∃ es, result = .error es ∧ .alreadyExists held ∈ es ∧
            last.progress i = .checked (.error es))) ∧
      (∀ id, ∀ i ∈ clients.inserted last id, ∀ j ∈ clients.inserted last id, i ≠ j →
        ∃ before now after, schedule = before ++ (j, now) :: after ∧
          (reached before).progress j = .checked (.ok ()) ∧
          (reached before).progress i ≠ .waiting) ∧
      (∀ i, let id := (clients.account i).id
        id ≠ "" → id.utf8ByteSize = clients.config.idLength →
          (last.progress i).isFinished = true → 0 < last.count id) ∧
      (∀ a, a.id ≠ "" → a.id.utf8ByteSize = clients.config.idLength →
        ((clients.rules.ruleSet.validateExisting a).run last.store).1 =
          if last.count a.id = 1 then .ok () else .error [.notUnique (last.count a.id)]) := by
  intro reached last
  have hbooks : ∀ turns, Accounted clients s (reached turns) :=
    (Accounted.start clients s).run
  refine ⟨fun before after hschedule id => ?_, (hbooks schedule).count,
    fun before i now after hschedule hwaiting => ?_, fun id i hi j hj hij => ?_,
    fun i hid hlen hi => (hbooks schedule).count_pos_of_isFinished hid hlen hi,
    fun a hid hlen => ?_⟩
  · rw [show last = clients.run (reached before) after by
      simp only [last, reached, hschedule, Clients.run_append]]
    exact Clients.count_le_run after id
  · have hchecked : (reached (before ++ [(i, now)])).progress i =
        .checked (.ofComplaints (clients.complaints (reached before) i)) := by
      simp only [reached, Clients.run_append]
      exact Clients.progress_turn_of_waiting hwaiting now
    refine ⟨_, hchecked, Clients.check_eq_ok_iff, (hbooks before).count_eq_zero_iff _,
      fun hid hheld => ⟨_, Clients.check_of_held hid hheld, ?_, ?_⟩⟩
    · exact List.mem_append_right _ (List.mem_singleton.mpr rfl)
    · rw [Clients.check_of_held hid hheld] at hchecked
      rw [show last = clients.run (reached (before ++ [(i, now)])) after by
        simp only [last, reached, ← Clients.run_append, hschedule, List.append_assoc,
          List.singleton_append]]
      exact Clients.progress_run_of_refused hchecked after
  · obtain ⟨histored, hiid⟩ := Clients.mem_inserted.mp hi
    obtain ⟨hjstored, hjid⟩ := Clients.mem_inserted.mp hj
    exact exists_overlap hij (hiid.trans hjid.symm) histored hjstored
  · rw [Clients.rules, run_validateExisting, complaints_validateExisting_of_fits hid hlen]
    show ValidationResult.ofComplaints (if last.count a.id = 1 then _ else _) = _
    split <;> rfl

/-- Two clients that both check before either stores: the id is stored twice, and it shows. -/
theorem race_of_two :
    let noon : Instant := ⟨⟨2026, 6, 1, by decide⟩, 720, 0, 0, by decide, by decide, by decide⟩
    let clients : Clients 2 :=
      ⟨.direct, ⟨2⟩, fun i => if i = 0 then ⟨"aa", "first", none⟩ else ⟨"aa", "second", none⟩⟩
    let last := clients.run (Race.start empty) [(0, noon), (1, noon), (0, noon), (1, noon)]
    last.count "aa" = 2 ∧
      ((clients.rules.ruleSet.validateExisting (.withId "aa")).run last.store).1 =
        .error [.notUnique 2] := by
  intro noon clients last
  have htwice : last.count "aa" = 2 := rfl
  have hshows := (races_are_overlaps empty clients
    [(0, noon), (1, noon), (0, noon), (1, noon)]).2.2.2.2.2 (.withId "aa") (by decide) (by decide)
  exact ⟨htwice, hshows⟩

end MemoryStore
end Roster
