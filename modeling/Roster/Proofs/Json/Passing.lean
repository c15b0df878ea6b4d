import Roster.Proofs.Json.Numeral

/-!
# Every value is passed over

A value that nobody looks at is passed over to its end, whatever its depth.

* `Value.exists_cons` and `Inside.followsValue` — what values start with, and what follows them.
* `walk_inside` — from behind a value to the closing bracket.
* `walk_value` — a value, inside of whatever brackets are open there; `skipValue_value` is the
  same with none.
-/

set_option autoImplicit false

namespace Roster
namespace Json

open Text (isDigit)

/-! ## The ends of values -/

/-- No value starts with a blank, a comma or a closing bracket. -/
theorem Value.exists_cons {v : List Char} (h : Value v) :
    ∃ c t, v = c :: t ∧ isBlank c = false ∧ c ∉ [',', ']', '}'] := by
  cases h with
  | word hword =>
    simp only [words, List.mem_cons, List.not_mem_nil, or_false] at hword
    rcases hword with rfl | rfl | rfl
    · exact ⟨'n', _, rfl, by decide, by decide⟩
    · exact ⟨'t', _, rfl, by decide, by decide⟩
    · exact ⟨'f', _, rfl, by decide, by decide⟩
  | list _ _ => exact ⟨'[', _, rfl, by decide, by decide⟩
  | object _ _ => exact ⟨'{', _, rfl, by decide, by decide⟩
  | text hquoted =>
    obtain ⟨body, -, rfl⟩ := hquoted
    exact ⟨'"', _, rfl, by decide, by decide⟩
  | number hnumeral =>
    obtain ⟨c, t, rfl, hc⟩ := hnumeral.exists_cons
    refine ⟨c, t, rfl, isBlank_of_numeral hc, fun hmark => ?_⟩
    simp only [List.mem_cons, List.not_mem_nil, or_false] at hmark
    rcases hmark with rfl | rfl | rfl <;> exact absurd hc (by decide)

/-- Behind a value follow blanks and then a comma or the closing bracket. -/
theorem followsValue_blanks {b : List Char} (hb : Blanks b) {c : Char} (hc : c ∈ [',', ']', '}'])
    (r : List Char) : FollowsValue (b ++ c :: r) := by
  cases b with
  | nil => exact ⟨c, r, List.mem_append_right [' ', '\t', '\n', '\r'] hc, rfl⟩
  | cons d b =>
    exact ⟨d, _, List.mem_append_left [',', ']', '}'] (hb d List.mem_cons_self), rfl⟩

theorem Bracket.closing_mem (bracket : Bracket) : bracket.closing ∈ [',', ']', '}'] := by
  cases bracket <;> decide

variable {β : Type} {Label : β → List Char → Prop}

/-- What stands behind a value in brackets follows a value. -/
theorem Inside.followsValue {ms : List (β × List Char)} {s : List Char}
    (h : Inside Label false ms s) (bracket : Bracket) (r : List Char) :
    FollowsValue (s ++ bracket.closing :: r) := by
  cases h with
  | nil hb => exact followsValue_blanks hb bracket.closing_mem r
  | cons hb _ _ _ =>
    rw [List.append_assoc]
    exact followsValue_blanks hb (by decide) _

/-! ## Walks -/

/-- The labels that are passed over inside of a bracket of the given kind: one that is not the
first right behind its comma, and the first one behind its blanks, where the closing bracket could
stand as well. -/
structure Bracket.Admits (bracket : Bracket) (Label : β → List Char → Prop) : Prop where
  skips : ∀ {k l} r, Label k l → skipLabel bracket (l ++ r) = .ok r
  opens : ∀ {k b l b' v} r, Blanks b → Label k l → Blanks b' → Value v →
    ∃ c t b'', dropBlanks (b ++ (l ++ (b' ++ (v ++ r)))) = c :: t ∧ c ≠ bracket.closing ∧
      Blanks b'' ∧ skipLabel bracket (c :: t) = .ok (b'' ++ (v ++ r))

theorem square_admits : Bracket.square.Admits Unlabelled where
  skips r hl := by
    obtain rfl := hl
    rfl
  opens {k b l b' v} r hb hl hb' hv := by
    obtain rfl := hl
    obtain ⟨c, t, rfl, hc, hmark⟩ := hv.exists_cons
    refine ⟨c, t ++ r, [], ?_, ?_, List.forall_mem_nil _, rfl⟩
    · rw [List.nil_append, List.cons_append, dropBlanks_append hb, dropBlanks_append_cons hb' hc]
    · rintro rfl
      exact hmark Bracket.square.closing_mem

theorem curly_admits : Bracket.curly.Admits (Labelled fun _ : Unit => Quoted) where
  skips r hl := skipKey_labelled hl r
  opens {k b l b' v} r hb hl hb' _ := by
    have hskip := skipKey_labelled hl (b' ++ (v ++ r))
    obtain ⟨b₀, key, b₁, hb₀, ⟨body, -, rfl⟩, -, rfl⟩ := hl
    obtain ⟨t, hquote⟩ : ∃ t, dropBlanks
        (b₀ ++ ('"' :: (body ++ ['"']) ++ (b₁ ++ [':'])) ++ (b' ++ (v ++ r))) = '"' :: t := by
      rw [List.append_assoc, List.cons_append, List.cons_append,
        dropBlanks_append_cons hb₀ (by decide)]
      exact ⟨_, rfl⟩
    refine ⟨'"', t, b', (dropBlanks_append hb _).trans hquote, by decide, hb', ?_⟩
    rw [skipLabel, ← hquote, skipKey, dropBlanks_dropBlanks]
    exact hskip

/-- A walk passes over a value, whatever blanks stand before it, whatever follows it and whatever
brackets are open around it. -/
def Passes (v : List Char) : Prop :=
  ∀ b r enclosing, Blanks b → FollowsValue r →
    walk .before enclosing (b ++ (v ++ r)) = walk .after enclosing r

/-- **A walk goes on behind a value to the closing bracket.** -/
theorem walk_inside {bracket : Bracket} (hlabel : bracket.Admits Label)
    {ms : List (β × List Char)} {s : List Char} (h : Inside Label false ms s)
    (hpasses : ∀ m ∈ ms, Passes m.2) (enclosing : List Bracket) (r : List Char) :
    walk .after (bracket :: enclosing) (s ++ bracket.closing :: r) = walk .after enclosing r := by
  have hclosing : isBlank bracket.closing = false ∧ bracket.closing ≠ ',' := by
    cases bracket <;> decide
  generalize hfirst : false = first at h
  induction h with
  | nil hb =>
    rw [walk_after_cons, dropBlanks_append_cons hb hclosing.1]
    simp only [if_neg hclosing.2, if_true]
  | @cons first k ms b l b' v s hb hl hb' hs ih =>
    subst hfirst
    have hv : Passes v := hpasses (k, v) List.mem_cons_self
    rw [separator, if_neg Bool.false_ne_true, List.singleton_append, List.append_assoc,
      walk_after_cons, List.cons_append, dropBlanks_append_cons hb (by decide)]
    simp only [if_true, List.append_assoc, hlabel.skips _ hl]
    rw [hv b' _ _ hb' (hs.followsValue bracket r)]
    exact ih (fun m hm => hpasses m (List.mem_cons_of_mem _ hm)) rfl

/-- **A walk passes over brackets** with all that is inside of them. -/
theorem passes_brackets {bracket : Bracket} (hlabel : bracket.Admits Label) {opening : Char}
    (hopening : Bracket.ofOpening? opening = some bracket) (hblank : isBlank opening = false)
    {ms : List (β × List Char)} {s : List Char}
    (h : Inside Label true ms s) (hvalues : ∀ m ∈ ms, Value m.2)
    (hpasses : ∀ m ∈ ms, Passes m.2) : Passes (opening :: (s ++ [bracket.closing])) := by
  intro b r enclosing hb hr
  rw [List.cons_append, List.append_assoc, List.singleton_append, walk_before,
    dropBlanks_append_cons hb hblank]
  simp only [hopening]
  cases h with
  | nil hb₀ =>
    have hclosing : isBlank bracket.closing = false := by cases bracket <;> rfl
    simp only [dropBlanks_append_cons hb₀ hclosing, if_true]
  | @cons _ k ms b₀ l b₁ v s hb₀ hl hb₁ hs =>
    have hv : Passes v := hpasses (k, v) List.mem_cons_self
    obtain ⟨c, t, b₂, hdrop, hne, hb₂, hskip⟩ := hlabel.opens (s ++ bracket.closing :: r) hb₀ hl
      hb₁ (hvalues (k, v) List.mem_cons_self)
    rw [separator, if_pos rfl, List.nil_append]
    simp only [List.append_assoc, hdrop, if_neg hne, hskip]
    rw [hv b₂ _ _ hb₂ (hs.followsValue bracket r)]
    exact walk_inside hlabel hs (fun m hm => hpasses m (List.mem_cons_of_mem _ hm)) enclosing r

/-- A walk passes over a value that holds no other. -/
theorem passes_scalar {c : Char} {t : List Char} (hblank : isBlank c = false)
    (hopening : Bracket.ofOpening? c = none)
    (hskip : ∀ r, FollowsValue r → skipScalar (c :: (t ++ r)) = .ok r) : Passes (c :: t) := by
  intro b r enclosing hb hr
  rw [List.cons_append, walk_before, dropBlanks_append_cons hb hblank]
  simp only [hopening, hskip r hr]

/-- **A walk passes over every value**, whatever its depth. -/
theorem walk_value {v : List Char} (h : Value v) : Passes v := by
  induction h with
  | word hword =>
    simp only [words, List.mem_cons, List.not_mem_nil, or_false] at hword
    rcases hword with rfl | rfl | rfl
    · exact passes_scalar (by decide) (by decide) fun r _ => literal_append ['u', 'l', 'l'] r
    · exact passes_scalar (by decide) (by decide) fun r _ => literal_append ['r', 'u', 'e'] r
    · exact passes_scalar (by decide) (by decide) fun r _ => literal_append ['a', 'l', 's', 'e'] r
  | text hquoted =>
    obtain ⟨body, hbody, rfl⟩ := hquoted
    refine passes_scalar (by decide) (by decide) fun r _ => ?_
    rw [List.append_assoc]
    exact skipText_pieces hbody r
  | number hnumeral =>
    obtain ⟨c, t, rfl, hc⟩ := hnumeral.exists_cons
    have hother (d : Char) (hd : ¬ (d = '-' ∨ isDigit d = true)) : c ≠ d := fun h => hd (h ▸ hc)
    refine passes_scalar (isBlank_of_numeral hc) ?_ fun r hr => ?_
    · rw [Bracket.ofOpening?, if_neg (hother '[' (by decide)), if_neg (hother '{' (by decide))]
    · rw [skipScalar, if_neg (hother 'n' (by decide)), if_neg (hother 't' (by decide)),
        if_neg (hother 'f' (by decide)), if_neg (hother '"' (by decide)), if_pos hc]
      exact skipNumber_numeral hnumeral hr
  | list h hvalues ih =>
    exact passes_brackets square_admits (by decide) (by decide) h hvalues ih
  | object h hvalues ih =>
    exact passes_brackets curly_admits (by decide) (by decide) h hvalues ih

/-- **Every value is passed over**, whatever its depth and whatever blanks stand before it. -/
theorem skipValue_value {v b r : List Char} (h : Value v) (hb : Blanks b) (hr : FollowsValue r) :
    skipValue (b ++ (v ++ r)) = .ok r := by
  rw [skipValue, walk_value h b r [] hb hr, walk_nil]

end Json
end Roster
