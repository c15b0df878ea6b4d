import Roster.Proofs.Memory.Step

/-!
# Ids are kept apart

What a session on the store in memory answers about an id depends on nothing but what was done to
this id before: how often an account with it came in, and when it was removed.  Nicknames and
moments do not matter, nor do questions, nor anything that was done to another id, however much it
looks like this one.

* `Question.about` — the same question about another account.  With the same id it is judged alike
  (`Question.expected_about`).
* `MemoryStore.words` — what steps do to an id, as a sequence of the words insert and remove, and
  `MemoryStore.tally`, how many accounts such a sequence leaves (`count_eq_tally`).
* `MemoryStore.Alike` — two steps that ask the same about an id.
* `answers_depend_on_own_words` — two sessions, each at any point.
-/

set_option autoImplicit false

namespace Roster

/-! ## Questions about another account -/

namespace Question

/-- The account that a question is about. -/
def account : Question → Account
  | .rule _ a | .validateNew a | .validateExisting a => a

/-- The same question about another account. -/
def about (b : Account) : Question → Question
  | .rule name _ => .rule name b
  | .validateNew _ => .validateNew b
  | .validateExisting _ => .validateExisting b

variable {q : Question} {b : Account}

theorem query?_about (h : b.id = q.account.id) : (q.about b).query? = q.query? := by
  cases q with
  | rule name a => cases name <;> simp_all [about, account, query?]
  | validateNew a => simp_all [about, account, query?]
  | validateExisting a => simp_all [about, account, query?]

/-- Of the account only the id is judged. -/
theorem complaints_about (h : b.id = q.account.id) (config : RuleConfig)
    (answer : Option CountAnswer) :
    (q.about b).complaints config answer = q.complaints config answer := by
  cases q with
  | rule name a => cases name <;> simp_all [about, account, complaints, RuleConfig.misfits]
  | validateNew a => simp_all [about, account, complaints, RuleConfig.misfits]
  | validateExisting a => simp_all [about, account, complaints, RuleConfig.misfits]

/-- **Accounts with the same id get the same reply.** -/
theorem expected_about (h : b.id = q.account.id) (config : RuleConfig)
    (answer : Option CountAnswer) :
    (q.about b).expected config answer = q.expected config answer := by
  rw [expected, expected, complaints_about h]
  cases q <;> cases complaints config answer _ <;> rfl

end Question

namespace MemoryStore

/-! ## Words -/

/-- What can be done to an id in a store. -/
inductive Word
  | insert
  | remove
deriving DecidableEq

/-- What a step does to an id.  Most steps do nothing to it. -/
def word? (id : String) : Step Command → Option Word
  | .command (.insert a _) => if a.id = id then some .insert else none
  | .command (.remove id') => if id' = id then some .remove else none
  | .command .list | .command .size | .ask _ | .count _ | .config => none

/-- What steps do to an id, in order. -/
def words (id : String) (steps : List (Step Command)) : List Word :=
  steps.filterMap (word? id)

/-- How many accounts have an id after one more word, if so many had it before. -/
def Word.tally (count : Nat) : Word → Nat
  | insert => count + 1
  | remove => 0

/-- How many accounts have an id after words about it, if none had it before. -/
def tally (ws : List Word) : Nat := ws.foldl Word.tally 0

/-- The steps that fill a store with accounts. -/
def filling (initial : List (Account × Instant)) : List (Step Command) :=
  initial.map fun (a, now) => .command (.insert a now)

/-- A store that was filled is one on which these steps were taken. -/
theorem filled_eq_foldl (initial : List (Account × Instant)) :
    filled initial = (filling initial).foldl after empty := by
  have hstart (s : MemoryStore) :
      (filling initial).foldl after s =
        ⟨s.accounts ++ initial.map fun (a, now) => a.stamped now⟩ := by
    induction initial generalizing s with
    | nil => rw [List.map_nil, List.append_nil]; rfl
    | cons first rest ih =>
      refine (ih _).trans ?_
      rw [after, List.append_assoc, List.map_cons, List.singleton_append]
  rw [hstart, filled, run_insertAll]
  rfl

/-- **A step changes the count of an id by what it does to the id**, and by nothing else. -/
theorem count_after_word (id : String) (step : Step Command) (s : MemoryStore) :
    (s.after step).count id = (word? id step).elim (s.count id) (Word.tally (s.count id)) := by
  cases step with
  | ask q => rfl
  | count id' => rfl
  | config => rfl
  | command c =>
    cases c with
    | insert a now =>
      rw [after, count_append, Account.id_stamped, word?]
      split <;> rfl
    | remove id' =>
      rw [after, count_filter, word?]
      split <;> rfl
    | list => rfl
    | size => rfl

/-- **So do many steps.** -/
theorem count_foldl_words (id : String) (steps : List (Step Command)) (s : MemoryStore) :
    (steps.foldl after s).count id = (words id steps).foldl Word.tally (s.count id) := by
  induction steps generalizing s with
  | nil => rfl
  | cons first rest ih =>
    rw [List.foldl_cons, ih, count_after_word, words, words, List.filterMap_cons]
    cases word? id first <;> rfl

/-- The count of an id at a point of a session, from the words about it. -/
theorem count_eq_tally (id : String) (holding : Holding) (config : RuleConfig)
    (initial : List (Account × Instant)) (steps : List (Step Command)) :
    ((session holding config).run steps (filled initial)).2.count id =
      tally (words id (filling initial ++ steps)) := by
  rw [state_run, filled_eq_foldl, ← List.foldl_append, count_foldl_words]
  rfl

-- an id that comes back is counted from its removal on
example : tally [.insert, .insert, .remove, .insert] = 1 := by decide

/-! ## Two sessions -/

/-- Steps that ask the same about an id: for its count, for its removal, or one of the rules or
validations about an account that has it. -/
inductive Alike (id : String) : Step Command → Step Command → Prop
  | count : Alike id (.count id) (.count id)
  | remove : Alike id (.command (.remove id)) (.command (.remove id))
  | ask (q : Question) (b : Account) (hq : q.account.id = id) (hb : b.id = id) :
      Alike id (.ask q) (.ask (q.about b))

/-- A question that asks the store asks it for the id of its account. -/
theorem query?_eq_some {q : Question} {id : String} (h : q.query? = some id) :
    q.account.id = id := by
  cases q with
  | rule name a => cases name <;> simp_all [Question.query?, Question.account]
  | validateNew a => simp_all [Question.query?, Question.account]
  | validateExisting a => simp_all [Question.query?, Question.account]

/-- Stores with the same count for an id answer its questions alike. -/
theorem answer?_congr {s₁ s₂ : MemoryStore} {q : Question}
    (h : s₁.count q.account.id = s₂.count q.account.id) : s₁.answer? q = s₂.answer? q := by
  rw [answer?, answer?]
  cases hq : q.query? with
  | none => rfl
  | some id =>
    obtain rfl := query?_eq_some hq
    rw [Option.map_some, Option.map_some, h]

/-- And they write the same down. -/
theorem entries_congr {s₁ s₂ : MemoryStore} {q : Question}
    (h : s₁.count q.account.id = s₂.count q.account.id) : s₁.entries q = s₂.entries q := by
  rw [entries, entries]
  cases hq : q.query? with
  | none => rfl
  | some id =>
    obtain rfl := query?_eq_some hq
    rw [Option.map_some, Option.map_some, h]

/-- **Stores with the same count for an id are alike to it.**  Steps that ask the same about the id
get the same answer from both, and write down the same events. -/
theorem Alike.step {id : String} {step₁ step₂ : Step Command} (h : Alike id step₁ step₂)
    {s₁ s₂ : MemoryStore} (hcount : s₁.count id = s₂.count id) (holding₁ holding₂ : Holding)
    (config : RuleConfig) :
    ∃ answer events left₁ left₂,
      ((session holding₁ config).step step₁).run (Traced.ofState s₁) =
          (answer, ⟨left₁, events⟩) ∧
        ((session holding₂ config).step step₂).run (Traced.ofState s₂) =
          (answer, ⟨left₂, events⟩) := by
  cases h with
  | count =>
    refine ⟨.count (.ok (s₁.count id)), [], s₁, s₂, rfl, ?_⟩
    rw [run_count, hcount]
    rfl
  | remove =>
    refine ⟨.outcome (.removed (s₁.count id)), [], ⟨s₁.accounts.filter (·.id != id)⟩,
      ⟨s₂.accounts.filter (·.id != id)⟩, run_command_remove holding₁ config _ id, ?_⟩
    rw [run_command_remove, hcount]
    rfl
  | ask q b hq hb =>
    subst hq
    have hquery : (q.about b).query? = q.query? := Question.query?_about hb
    have hanswer : s₂.answer? (q.about b) = s₁.answer? q := by
      rw [answer?_congr hcount, answer?, answer?, hquery]
    have hentries : s₂.entries (q.about b) = s₁.entries q := by
      rw [entries_congr hcount, entries, entries, hquery]
    refine ⟨.reply (q.expected config (s₁.answer? q)), s₁.entries q, s₁, s₂,
      run_ask holding₁ config _ q, ?_⟩
    rw [run_ask, Question.expected_about hb]
    simp only [Traced.ofState, List.nil_append, hanswer, hentries]

/-- **Answers depend on what was done to their own id.**  Take two sessions with the same
configuration, each on a store that was filled with any accounts and held in any way, and any point
in each.  If the same was done to an id in both, in the same order, then

* the count for the id is the tally of that;
* steps that ask the same about the id get the same answer and write down the same events, also
  where the accounts that they ask about differ in everything but the id. -/
theorem answers_depend_on_own_words (id : String) (config : RuleConfig)
    (initial₁ initial₂ : List (Account × Instant)) (holding₁ holding₂ : Holding)
    (earlier₁ earlier₂ : List (Step Command))
    (h : words id (filling initial₁ ++ earlier₁) = words id (filling initial₂ ++ earlier₂)) :
    let session₁ := session holding₁ config
    let session₂ := session holding₂ config
    session₁.Takes (filled initial₁) earlier₁ (.count id)
        (.count (.ok (tally (words id (filling initial₁ ++ earlier₁))))) []
        (session₁.run earlier₁ (filled initial₁)).2 ∧
      ∀ step₁ step₂, Alike id step₁ step₂ → ∃ answer events left₁ left₂,
        session₁.Takes (filled initial₁) earlier₁ step₁ answer events left₁ ∧
          session₂.Takes (filled initial₂) earlier₂ step₂ answer events left₂ := by
  intro session₁ session₂
  have hcount₁ := count_eq_tally id holding₁ config initial₁ earlier₁
  have hcount₂ := count_eq_tally id holding₂ config initial₂ earlier₂
  refine ⟨session₁.takes_of_step rfl ?_, fun step₁ step₂ halike => ?_⟩
  · rw [run_count, ← hcount₁]
    rfl
  · have hsame : (session₁.run earlier₁ (filled initial₁)).2.count id =
        (session₂.run earlier₂ (filled initial₂)).2.count id := by
      rw [hcount₁, hcount₂, h]
    obtain ⟨answer, events, left₁, left₂, hstep₁, hstep₂⟩ :=
      halike.step hsame holding₁ holding₂ config
    exact ⟨answer, events, left₁, left₂, session₁.takes_of_step rfl hstep₁,
      session₂.takes_of_step rfl hstep₂⟩

/-- Two stores that have nothing in common but one account with the id, asked about accounts that
have nothing in common but the id.  In the first, ids that look like it come and go. -/
theorem answers_among_lookalikes :
    let noon : Instant :=
      ⟨⟨2026, 6, 1, by decide⟩, 720, 0, 0, by decide, by decide, by decide⟩
    let initial : List (Account × Instant) :=
      [(⟨"AA", "", none⟩, noon), (⟨"aa", "Zezima", none⟩, noon)]
    let earlier₁ : List (Step Command) := [.command (.insert ⟨"aa ", "Zezima", none⟩ noon),
      .command (.remove "aa"), .ask (.validateNew ⟨"aa", "", none⟩), .command (.remove "AA"),
      .command (.insert ⟨"aa", "Zezima", none⟩ noon), .command (.remove "aa ")]
    let earlier₂ : List (Step Command) := [.command (.insert ⟨"aa", "", some noon⟩ noon),
      .command (.remove "aa"), .command (.insert ⟨"aa", "", some noon⟩ noon)]
    words "aa" (filling initial ++ earlier₁) = words "aa" (filling [] ++ earlier₂) ∧
      ∃ answer events left₁ left₂,
        (session .direct ⟨2⟩).Takes (filled initial) earlier₁
            (.ask (.validateExisting ⟨"aa", "Zezima", none⟩)) answer events left₁ ∧
          (session (.shared .direct) ⟨2⟩).Takes (filled []) earlier₂
            (.ask (.validateExisting ⟨"aa", "", some noon⟩)) answer events left₂ := by
  intro noon initial earlier₁ earlier₂
  have h : words "aa" (filling initial ++ earlier₁) = words "aa" (filling [] ++ earlier₂) := by
    decide
  have halike : Alike "aa" (.ask (.validateExisting ⟨"aa", "Zezima", none⟩))
      (.ask (.validateExisting ⟨"aa", "", some noon⟩)) :=
    .ask (.validateExisting ⟨"aa", "Zezima", none⟩) ⟨"aa", "", some noon⟩ rfl rfl
  exact ⟨h, (answers_depend_on_own_words "aa" ⟨2⟩ initial [] .direct (.shared .direct) earlier₁
    earlier₂ h).2 _ _ halike⟩

end MemoryStore
end Roster
