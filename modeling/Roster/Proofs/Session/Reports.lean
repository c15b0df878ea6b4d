import Roster.Proofs.Text.Quoting
import Roster.Session
import Roster.Store.Mock

/-!
# What is reported can be told apart

The lines of the journal and the complaints of a stand-in are made of fixed words, numbers, quoted
texts, and at most one text that is not quoted.  Whatever these texts contain, also if they imitate
the words around them, what was reported can be read off the words.

* `Event.line_inj` — a line belongs to one event.
* `MockStore.message_unexpectedFailure_inj` and `Assessment.complaint?_inj` — what a stand-in says
  of a query that nothing expected, and of the expectations in the end.
* `reports_are_unambiguous` — all of them, and the journals of whole sessions.
-/

set_option autoImplicit false

namespace Roster

open Text (quoted)

/-! ## Lines of the journal -/

theorem toList_toString (n : Nat) : (toString n).toList = Nat.toDigits 10 n := by
  rw [Nat.toString_eq_ofList_toDigits, String.toList_ofList]

/-- Words that start with different characters are different, whatever follows them. -/
theorem append_ne_of_head {w w' : String} {c c' : Char} (h : w.toList.head? = some c)
    (h' : w'.toList.head? = some c') (hne : c ≠ c') (r r' : List Char) :
    w.toList ++ r ≠ w'.toList ++ r' := by
  intro heq
  have hhead := congrArg List.head? heq
  rw [List.head?_append, List.head?_append, h, h', Option.some_or, Option.some_or,
    Option.some.injEq] at hhead
  exact hne hhead

namespace Event

theorem toList_line_stored (id : String) :
    (stored id).line.toList =
      "DEBUG Storing account ".toList ++ (id.toList ++ " in memory".toList) := by
  show ("DEBUG Storing account " ++ id ++ " in memory").toList = _
  rw [String.toList_append, String.toList_append, List.append_assoc]

theorem toList_line_counted (count : Nat) (id : String) :
    (counted count id).line.toList =
      "DEBUG ".toList ++ (Nat.toDigits 10 count ++
        (" account(s) hold ID ".toList ++ (quoted id).toList)) := by
  show ("DEBUG " ++ toString count ++ " account(s) hold ID " ++ quoted id).toList = _
  rw [String.toList_append, String.toList_append, String.toList_append, toList_toString,
    List.append_assoc, List.append_assoc]

theorem toList_line_countFailed (id message : String) :
    (countFailed id message).line.toList =
      "WARN Failed to count accounts with ID ".toList ++
        ((quoted id).toList ++ (": ".toList ++ message.toList)) := by
  show ("WARN Failed to count accounts with ID " ++ quoted id ++ ": " ++ message).toList = _
  rw [String.toList_append, String.toList_append, String.toList_append, List.append_assoc,
    List.append_assoc]

/-- Behind its level, the line of a stored account does not start with a number. -/
theorem line_stored_ne_line_counted (id id' : String) (count : Nat) :
    (stored id).line ≠ (counted count id').line := by
  intro h
  have htext := congrArg String.toList h
  rw [toList_line_stored, toList_line_counted] at htext
  have hwords : "DEBUG Storing account ".toList =
      "DEBUG ".toList ++ 'S' :: "toring account ".toList := rfl
  rw [hwords, List.append_assoc, List.cons_append] at htext
  exact Text.toDigits_append_ne_cons rfl (List.append_cancel_left htext).symm

/-- The lines of failures have a level of their own. -/
theorem line_ne_line_countFailed {e : Event} (he : ∀ id message, e ≠ countFailed id message)
    (id message : String) : e.line ≠ (countFailed id message).line := by
  intro h
  have htext := congrArg String.toList h
  rw [toList_line_countFailed] at htext
  have hwarn : "WARN Failed to count accounts with ID ".toList.head? = some 'W' := by simp
  cases e with
  | stored id' =>
    rw [toList_line_stored] at htext
    exact append_ne_of_head (by simp) hwarn (by decide : 'D' ≠ 'W') _ _ htext
  | counted count id' =>
    rw [toList_line_counted] at htext
    exact append_ne_of_head (by simp) hwarn (by decide : 'D' ≠ 'W') _ _ htext
  | countFailed id' message' => exact he id' message' rfl

/-- **A line belongs to one event.** -/
theorem line_inj {e e' : Event} (h : e.line = e'.line) : e = e' := by
  have htext := congrArg String.toList h
  cases e with
  | stored id =>
    cases e' with
    | stored id' =>
      rw [toList_line_stored, toList_line_stored] at htext
      have hid := List.append_cancel_right (List.append_cancel_left htext)
      exact congrArg stored (String.toList_inj.mp hid)
    | counted count' id' => exact absurd h (line_stored_ne_line_counted id id' count')
    | countFailed id' message' => exact absurd h (line_ne_line_countFailed (by simp) id' message')
  | counted count id =>
    cases e' with
    | stored id' => exact absurd h.symm (line_stored_ne_line_counted id' id count)
    | counted count' id' =>
      have hwords : " account(s) hold ID ".toList = ' ' :: "account(s) hold ID ".toList := by simp
      rw [toList_line_counted, toList_line_counted, hwords] at htext
      obtain ⟨rfl, hrest⟩ := Text.toDigits_append_inj rfl rfl (List.append_cancel_left htext)
      have hid := List.append_cancel_left (List.cons.inj hrest).2
      rw [← List.append_nil (quoted id).toList, ← List.append_nil (quoted id').toList] at hid
      obtain ⟨rfl, -⟩ := Text.selfDelimiting_quoted hid
      rfl
    | countFailed id' message' => exact absurd h (line_ne_line_countFailed (by simp) id' message')
  | countFailed id message =>
    cases e' with
    | stored id' => exact absurd h.symm (line_ne_line_countFailed (by simp) id message)
    | counted count' id' => exact absurd h.symm (line_ne_line_countFailed (by simp) id message)
    | countFailed id' message' =>
      rw [toList_line_countFailed, toList_line_countFailed] at htext
      obtain ⟨rfl, hrest⟩ := Text.selfDelimiting_quoted (List.append_cancel_left htext)
      have hmessage := List.append_cancel_left hrest
      exact congrArg (countFailed id) (String.toList_inj.mp hmessage)

end Event

/-! ## Complaints of the stand-in -/

/-- The failure of a query that nothing expected names the id that was asked for. -/
theorem MockStore.message_unexpectedFailure_inj {id id' : String}
    (h : (unexpectedFailure id).message = (unexpectedFailure id').message) : id = id' := by
  have htext : ("unexpected call: count_matching_id(" ++ quoted id ++ ")").toList =
      ("unexpected call: count_matching_id(" ++ quoted id' ++ ")").toList :=
    congrArg String.toList h
  simp only [String.toList_append, List.append_assoc] at htext
  exact (Text.selfDelimiting_quoted (List.append_cancel_left htext)).1

namespace Assessment

theorem complaint?_unexpected (ids : List String) :
    (unexpected ids).complaint? =
      some ("unexpected count_matching_id calls: " ++ Text.quotedList ids) := rfl

theorem complaint?_unmet (id : String) (expected actual : Nat) :
    (unmet id expected actual).complaint? =
      some ("assertion `left == right` failed: count_matching_id(" ++ quoted id ++
        ") expected " ++ toString expected ++ " call(s), got " ++ toString actual ++
        "\n  left: " ++ toString actual ++ "\n right: " ++ toString expected) := rfl

/-- A quoted text and two numbers can be read off the words that stand around them. -/
theorem template_inj {w w₁ w₂ r r' : List Char} {c c' : Char} (hc : Text.isDigit c = false)
    (hc' : Text.isDigit c' = false) {id id' : String} {n n' m m' : Nat}
    (h : w ++ ((quoted id).toList ++ (w₁ ++ (Nat.toDigits 10 n ++ c ::
        (w₂ ++ (Nat.toDigits 10 m ++ c' :: r))))) =
      w ++ ((quoted id').toList ++ (w₁ ++ (Nat.toDigits 10 n' ++ c ::
        (w₂ ++ (Nat.toDigits 10 m' ++ c' :: r')))))) :
    id = id' ∧ n = n' ∧ m = m' := by
  obtain ⟨hid, hrest⟩ := Text.selfDelimiting_quoted (List.append_cancel_left h)
  obtain ⟨hn, hrest⟩ := Text.toDigits_append_inj hc hc (List.append_cancel_left hrest)
  have hrest := List.append_cancel_left (List.cons.inj hrest).2
  exact ⟨hid, hn, (Text.toDigits_append_inj hc' hc' hrest).1⟩

/-- An expectation that was not met is told by its id and its numbers. -/
theorem complaint?_unmet_inj {id id' : String} {expected expected' actual actual' : Nat}
    (h : (unmet id expected actual).complaint? = (unmet id' expected' actual').complaint?) :
    id = id' ∧ expected = expected' ∧ actual = actual' := by
  have hcalls : " call(s), got ".toList = ' ' :: "call(s), got ".toList := by simp
  have hleft : "\n  left: ".toList = '\n' :: "  left: ".toList := by simp
  rw [complaint?_unmet, complaint?_unmet, Option.some.injEq] at h
  have htext := congrArg String.toList h
  simp only [String.toList_append, toList_toString, List.append_assoc, hcalls, hleft,
    List.cons_append] at htext
  exact template_inj rfl rfl htext

/-- Queries that nothing expected and expectations that were not met have words of their own. -/
theorem complaint?_unexpected_ne_unmet (ids : List String) (id : String)
    (expected actual : Nat) :
    (unexpected ids).complaint? ≠ (unmet id expected actual).complaint? := by
  intro h
  rw [complaint?_unexpected, complaint?_unmet, Option.some.injEq] at h
  have htext := congrArg String.toList h
  simp only [String.toList_append, List.append_assoc] at htext
  exact append_ne_of_head (by simp) (by simp) (by decide : 'u' ≠ 'a') _ _ htext

/-- Only an assessment without a complaint has no words. -/
theorem eq_met_of_complaint? {a : Assessment} (h : a.complaint? = none) : a = met := by
  cases a with
  | met => rfl
  | unexpected ids => exact absurd h (Option.some_ne_none _)
  | unmet id expected actual => exact absurd h (Option.some_ne_none _)

/-- **The words for an assessment belong to it alone.** -/
theorem complaint?_inj {a a' : Assessment} (h : a.complaint? = a'.complaint?) : a = a' := by
  cases a with
  | met => exact (eq_met_of_complaint? h.symm).symm
  | unexpected ids =>
    cases a' with
    | met => exact eq_met_of_complaint? h
    | unexpected ids' =>
      rw [complaint?_unexpected, complaint?_unexpected, Option.some.injEq] at h
      have htext := congrArg String.toList h
      rw [String.toList_append, String.toList_append] at htext
      have hids := List.append_cancel_left htext
      rw [← List.append_nil (Text.quotedList ids).toList,
        ← List.append_nil (Text.quotedList ids').toList] at hids
      exact congrArg unexpected (Text.selfDelimiting_quotedList hids).1
    | unmet id' expected' actual' =>
      exact absurd h (complaint?_unexpected_ne_unmet ids id' expected' actual')
  | unmet id expected actual =>
    cases a' with
    | met => exact eq_met_of_complaint? h
    | unexpected ids' =>
      exact absurd h.symm (complaint?_unexpected_ne_unmet ids' id expected actual)
    | unmet id' expected' actual' =>
      obtain ⟨rfl, rfl, rfl⟩ := complaint?_unmet_inj h
      rfl

end Assessment

/-! ## Sessions -/

/-- The journal of a session: what was written down before its first step, for instance when the
store was filled, and then what its steps write down, in their order. -/
def Session.journal {σ κ ρ : Type} (session : Session σ κ ρ) (steps : List (Step κ))
    (start : Journaled σ) : List Event :=
  start.trace ++ (session.run steps start.state).1.flatMap Prod.snd

/-- Lines that are the same, one by one, tell the same events. -/
theorem Event.map_line_inj {es es' : List Event} (h : es.map line = es'.map line) : es = es' :=
  (List.map_inj_right fun _ _ => line_inj).mp h

/-- **What is reported can be told apart**, whatever texts are reported.

* Lines of the journal are equal exactly if they tell the same kind of event, with the same count,
  the same id and the same message.
* The failures of two queries that nothing expected have the same message exactly if the same id was
  asked for.
* Two assessments of a stand-in, be they of the same kind or not, have the same words exactly if the
  same ids came unexpectedly, in the same order, or the same numbers of queries were expected and
  made for the same id.
* The lines of two sessions, on whichever stores and with whichever steps, are the same exactly if
  the events are, in the same order. -/
theorem reports_are_unambiguous :
    (∀ e e' : Event, e.line = e'.line ↔ e = e') ∧
      (∀ id id' : String, (MockStore.unexpectedFailure id).message =
        (MockStore.unexpectedFailure id').message ↔ id = id') ∧
      (∀ a a' : Assessment, a.complaint? = a'.complaint? ↔ a = a') ∧
      ∀ {σ κ ρ σ' κ' ρ' : Type} (session : Session σ κ ρ) (session' : Session σ' κ' ρ')
        (steps : List (Step κ)) (steps' : List (Step κ')) (start : Journaled σ)
        (start' : Journaled σ'),
        (session.journal steps start).map Event.line =
            (session'.journal steps' start').map Event.line ↔
          session.journal steps start = session'.journal steps' start' := by
  refine ⟨fun e e' => ⟨Event.line_inj, congrArg Event.line⟩,
    fun id id' => ⟨MockStore.message_unexpectedFailure_inj, ?_⟩,
    fun a a' => ⟨Assessment.complaint?_inj, congrArg Assessment.complaint?⟩, ?_⟩
  · rintro rfl
    rfl
  · intro σ κ ρ σ' κ' ρ' session session' steps steps' start start'
    exact ⟨Event.map_line_inj, congrArg (List.map Event.line)⟩

end Roster
