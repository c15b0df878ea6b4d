import Roster.Account.Identifier
import Roster.Proofs.Text.Quoting
import Roster.Text.Basic

/-!
# Generated ids

Every id that is made from sixteen bytes has the shape of a random UUID and takes up thirty-six
bytes, and it keeps all of the sixteen bytes but the six bits of the version and the variant.

* `isRandom_generate` and `utf8ByteSize_of_isRandom` — the shape and the length.
* `hyphenated_inj` — the bytes can be read off the text, by leaving out the hyphens.
* `freeBits` — the bits that are kept, and `generate_eq_iff`: two ids are equal exactly if the bytes
  agree on them.
-/

set_option autoImplicit false

namespace Roster

/-- Where every character takes up one byte, there are as many bytes as characters. -/
theorem Text.byteLength_eq_length {s : List Char} (h : ∀ c ∈ s, c.utf8Size = 1) :
    byteLength s = s.length := by
  induction s with
  | nil => rfl
  | cons c s ih =>
    obtain ⟨hc, hs⟩ := List.forall_mem_cons.mp h
    rw [byteLength_cons, hc, ih hs, List.length_cons, Nat.add_comm]

namespace Identifier

/-! ## The shape -/

theorem exists_bytes (bytes : Vector UInt8 16) :
    ∃ b₀ b₁ b₂ b₃ b₄ b₅ b₆ b₇ b₈ b₉ b₁₀ b₁₁ b₁₂ b₁₃ b₁₄ b₁₅ : UInt8,
      bytes = #v[b₀, b₁, b₂, b₃, b₄, b₅, b₆, b₇, b₈, b₉, b₁₀, b₁₁, b₁₂, b₁₃, b₁₄, b₁₅] := by
  obtain ⟨⟨l⟩, h⟩ := bytes
  match l, h with
  | [b₀, b₁, b₂, b₃, b₄, b₅, b₆, b₇, b₈, b₉, b₁₀, b₁₁, b₁₂, b₁₃, b₁₄, b₁₅], _ =>
    exact ⟨b₀, b₁, b₂, b₃, b₄, b₅, b₆, b₇, b₈, b₉, b₁₀, b₁₁, b₁₂, b₁₃, b₁₄, b₁₅, rfl⟩

theorem isLowerHex_digitChar : ∀ n < 16, isLowerHex (Nat.digitChar n) = true := by decide

theorem isLowerHex_high (b : UInt8) : isLowerHex (Nat.digitChar (b.toNat / 16)) = true := by
  have hb := b.toNat_lt
  exact isLowerHex_digitChar _ (by omega)

theorem isLowerHex_low (b : UInt8) : isLowerHex (Nat.digitChar (b.toNat % 16)) = true :=
  isLowerHex_digitChar _ (Nat.mod_lt _ (by decide))

theorem get_stamp (bytes : Vector UInt8 16) (i : Fin 16) :
    (stamp bytes).get i = if i = 6 then bytes.get 6 &&& 0x0f ||| 0x40
      else if i = 8 then bytes.get 8 &&& 0x3f ||| 0x80 else bytes.get i := by
  have hget (v : Vector UInt8 16) (j : Fin 16) : v.get j = v[j.val] := rfl
  have hsix : (6 : Fin 16).val = 6 := rfl
  have hlate : (8 : Fin 16).val = 8 := rfl
  simp only [stamp, hget, Vector.getElem_set, Fin.ext_iff, hsix, hlate]
  grind

/-- The seventh byte starts with the version. -/
theorem digitChar_version (b : UInt8) :
    Nat.digitChar ((b &&& 0x0f ||| 0x40).toNat / 16) = '4' := by
  have hall : ∀ n < 256, Nat.digitChar ((n &&& 0x0f ||| 0x40) / 16) = '4' := by decide +kernel
  simpa using hall b.toNat b.toNat_lt

/-- The ninth byte starts with the variant, of which the two lower bits of the digit are free. -/
theorem fits_variant (b : UInt8) :
    fits 19 (Nat.digitChar ((b &&& 0x3f ||| 0x80).toNat / 16)) = true := by
  have hall : ∀ n < 256, fits 19 (Nat.digitChar ((n &&& 0x3f ||| 0x80) / 16)) = true := by
    decide +kernel
  simpa using hall b.toNat b.toNat_lt

/-- Bytes have the shape of a random UUID as soon as the seventh and the ninth of them start with
the version and the variant. -/
theorem isRandom_hyphenated (bytes : Vector UInt8 16)
    (hversion : Nat.digitChar ((bytes.get 6).toNat / 16) = '4')
    (hvariant : fits 19 (Nat.digitChar ((bytes.get 8).toNat / 16)) = true) :
    isRandom (String.ofList (hyphenated bytes)) = true := by
  obtain ⟨b₀, b₁, b₂, b₃, b₄, b₅, b₆, b₇, b₈, b₉, b₁₀, b₁₁, b₁₂, b₁₃, b₁₄, b₁₅, rfl⟩ :=
    exists_bytes bytes
  change Nat.digitChar (b₆.toNat / 16) = '4' at hversion
  change fits 19 (Nat.digitChar (b₈.toNat / 16)) = true at hvariant
  simpa [isRandom, hyphenated, byteDigits, hversion, fits, isLowerHex_high, isLowerHex_low]
    using hvariant

/-- **A generated id has the shape of a random UUID**, whatever bytes it is made from. -/
theorem isRandom_generate (bytes : Vector UInt8 16) : isRandom (generate bytes) = true := by
  have hversion : (stamp bytes).get 6 = bytes.get 6 &&& 0x0f ||| 0x40 := by
    rw [get_stamp, if_pos rfl]
  have hvariant : (stamp bytes).get 8 = bytes.get 8 &&& 0x3f ||| 0x80 := by
    rw [get_stamp, if_neg (by decide), if_pos rfl]
  exact isRandom_hyphenated (stamp bytes) (hversion ▸ digitChar_version _)
    (hvariant ▸ fits_variant _)

theorem utf8Size_of_isLowerHex {c : Char} (h : isLowerHex c = true) : c.utf8Size = 1 := by
  rw [Char.utf8Size_eq_one_iff, UInt32.le_iff_toNat_le]
  simp only [isLowerHex, Bool.or_eq_true, Bool.and_eq_true, decide_eq_true_eq, Char.le_def,
    UInt32.le_iff_toNat_le] at h
  have h9 : '9'.val.toNat = 57 := rfl
  have hf : 'f'.val.toNat = 102 := rfl
  have h127 : (127 : UInt32).toNat = 127 := rfl
  omega

/-- Whatever may stand in a generated id takes up one byte. -/
theorem utf8Size_of_fits {index : Nat} {c : Char} (h : fits index c = true) : c.utf8Size = 1 := by
  unfold fits at h
  split at h
  · rw [beq_iff_eq] at h
    rw [h]
    rfl
  · split at h
    · rw [beq_iff_eq] at h
      rw [h]
      rfl
    · split at h
      · simp only [Bool.or_eq_true, beq_iff_eq] at h
        rcases h with ((rfl | rfl) | rfl) | rfl <;> rfl
      · exact utf8Size_of_isLowerHex h

/-- A text of that shape takes up thirty-six bytes. -/
theorem utf8ByteSize_of_isRandom {id : String} (h : isRandom id = true) : id.utf8ByteSize = 36 := by
  simp only [isRandom, Bool.and_eq_true, beq_iff_eq, List.all_eq_true] at h
  obtain ⟨hlength, hfits⟩ := h
  have hsize : ∀ c ∈ id.toList, c.utf8Size = 1 := by
    intro c hc
    obtain ⟨index, hindex, rfl⟩ := List.getElem_of_mem hc
    exact utf8Size_of_fits (hfits (id.toList[index], index)
      (List.mk_mem_zipIdx_iff_getElem?.mpr (List.getElem?_eq_getElem hindex)))
  rw [Text.utf8ByteSize_eq, Text.byteLength_eq_length hsize, hlength]

/-! ## The bytes of an id -/

theorem selfDelimiting_byteDigits : Text.SelfDelimiting byteDigits := by
  intro a b r s h
  simp only [byteDigits, List.cons_append, List.nil_append, List.cons.injEq] at h
  obtain ⟨hhigh, hlow, hrest⟩ := h
  have ha := a.toNat_lt
  have hb := b.toNat_lt
  have hquot := Text.digitChar_inj _ (by omega) _ (by omega) hhigh
  have hrem := Text.digitChar_inj _ (Nat.mod_lt _ (by decide)) _ (Nat.mod_lt _ (by decide)) hlow
  exact ⟨UInt8.toNat_inj.mp (by omega), hrest⟩

/-- The digits of several bytes, without hyphens. -/
theorem flatMap_byteDigits_inj {bs cs : List UInt8} (hlength : bs.length = cs.length)
    (h : bs.flatMap byteDigits = cs.flatMap byteDigits) : bs = cs := by
  induction bs generalizing cs with
  | nil => exact (List.eq_nil_of_length_eq_zero hlength.symm).symm
  | cons b bs ih =>
    cases cs with
    | nil => cases hlength
    | cons c cs =>
      rw [List.flatMap_cons, List.flatMap_cons] at h
      obtain ⟨rfl, hrest⟩ := selfDelimiting_byteDigits h
      rw [ih (Nat.succ.inj hlength) hrest]

theorem filter_flatMap_byteDigits (bs : List UInt8) :
    (bs.flatMap byteDigits).filter (· != '-') = bs.flatMap byteDigits := by
  refine List.filter_eq_self.mpr fun c hc => ?_
  obtain ⟨b, -, hdigit⟩ := List.mem_flatMap.mp hc
  simp only [byteDigits, List.mem_cons, List.not_mem_nil, or_false] at hdigit
  rcases hdigit with rfl | rfl <;> exact bne_iff_ne.mpr (Nat.digitChar_ne '-' (by decide))

/-- The five groups together. -/
theorem groups_append {α : Type} (bs : List α) :
    bs.take 4 ++ ((bs.drop 4).take 2 ++ ((bs.drop 6).take 2 ++
      ((bs.drop 8).take 2 ++ bs.drop 10))) = bs := by
  have hpair (n : Nat) : (bs.drop n).take 2 ++ bs.drop (n + 2) = bs.drop n := by
    rw [← List.drop_drop, List.take_append_drop]
  rw [hpair 8, hpair 6, hpair 4, List.take_append_drop]

/-- Without its hyphens an id is the digits of its bytes. -/
theorem filter_hyphenated (bytes : Vector UInt8 16) :
    (hyphenated bytes).filter (· != '-') = bytes.toList.flatMap byteDigits := by
  have hhyphen : ('-' != '-') = false := rfl
  simp only [hyphenated, ← List.map_take, ← List.map_drop, ← List.flatMap_def, List.filter_append,
    List.filter_cons, hhyphen, Bool.false_eq_true, if_false, filter_flatMap_byteDigits]
  rw [List.append_assoc, List.append_assoc, List.append_assoc, ← List.flatMap_append,
    ← List.flatMap_append, ← List.flatMap_append, ← List.flatMap_append, groups_append]

/-- The bytes can be read off the text. -/
theorem hyphenated_inj {x y : Vector UInt8 16} (h : hyphenated x = hyphenated y) : x = y := by
  have hdigits : x.toList.flatMap byteDigits = y.toList.flatMap byteDigits := by
    rw [← filter_hyphenated, h, filter_hyphenated]
  exact Vector.toList_inj.mp (flatMap_byteDigits_inj
    (x.length_toList.trans y.length_toList.symm) hdigits)

/-! ## The bits that are kept -/

/-- A bit of the bytes: which byte, and which of its bits from the lowest. -/
def bit (bytes : Vector UInt8 16) (p : Fin 16 × Fin 8) : Bool :=
  (bytes.get p.1).toNat.testBit p.2

/-- Whether the version or the variant takes the place of a bit: the upper four bits of the seventh
byte, and the upper two of the ninth. -/
def isStamped (p : Fin 16 × Fin 8) : Bool := (p.1 == 6 && 4 ≤ p.2) || (p.1 == 8 && 6 ≤ p.2)

/-- The bits of the bytes that no version and no variant takes the place of. -/
def freeBits : List (Fin 16 × Fin 8) :=
  ((List.finRange 16).flatMap fun i => (List.finRange 8).map fun k => (i, k)).filter
    (!isStamped ·)

theorem length_freeBits : freeBits.length = 122 := by decide +kernel

theorem mem_freeBits {p : Fin 16 × Fin 8} : p ∈ freeBits ↔ isStamped p = false := by
  obtain ⟨i, k⟩ := p
  simp [freeBits, List.mem_filter, List.mem_flatMap, List.mem_finRange]

theorem eq_iff_bit {x y : Vector UInt8 16} : x = y ↔ ∀ p, bit x p = bit y p := by
  refine ⟨fun h p => h ▸ rfl, fun h => Vector.ext fun i hi => UInt8.toNat_inj.mp ?_⟩
  refine Nat.eq_of_testBit_eq fun k => ?_
  rcases Nat.lt_or_ge k 8 with hk | hk
  · exact h (⟨i, hi⟩, ⟨k, hk⟩)
  · have hsmall (b : UInt8) : b.toNat.testBit k = false :=
      Nat.testBit_lt_two_pow (Nat.lt_of_lt_of_le b.toNat_lt (Nat.pow_le_pow_right (by decide) hk))
    rw [hsmall, hsmall]

/-- A byte of which the bits from `n` on are replaced by the one bit `m`. -/
theorem testBit_stamped {mask mark : UInt8} {n m : Fin 8}
    (hmask : ∀ k : Fin 8, mask.toNat.testBit k = !decide (n ≤ k))
    (hmark : ∀ k : Fin 8, mark.toNat.testBit k = decide (k = m)) (hle : n ≤ m) (b : UInt8)
    (k : Fin 8) :
    (b &&& mask ||| mark).toNat.testBit k =
      if n ≤ k then decide (k = m) else b.toNat.testBit k := by
  rw [UInt8.toNat_or, UInt8.toNat_and, Nat.testBit_or, Nat.testBit_and, hmask, hmark]
  by_cases hk : n ≤ k
  · simp [hk]
  · have hne : k ≠ m := fun h => hk (h ▸ hle)
    simp [hk, hne]

/-- The version and the variant, as bits: the digit four, and a digit that starts with a one and a
zero. -/
theorem bit_stamp (bytes : Vector UInt8 16) (p : Fin 16 × Fin 8) :
    bit (stamp bytes) p =
      if isStamped p then decide (p = (6, 6) ∨ p = (8, 7)) else bit bytes p := by
  obtain ⟨i, k⟩ := p
  rw [bit, get_stamp]
  dsimp only
  by_cases h6 : i = 6
  · subst h6
    have hbit : bit bytes (6, k) = (bytes.get 6).toNat.testBit k := rfl
    rw [if_pos rfl, testBit_stamped (n := 4) (m := 6) (by decide) (by decide) (by decide), hbit]
    simp [isStamped]
  · by_cases h8 : i = 8
    · subst h8
      have hbit : bit bytes (8, k) = (bytes.get 8).toNat.testBit k := rfl
      rw [if_neg h6, if_pos rfl,
        testBit_stamped (n := 6) (m := 7) (by decide) (by decide) (by decide), hbit]
      simp [isStamped]
    · rw [if_neg h6, if_neg h8]
      simp [isStamped, bit, h6, h8]

/-- Two ids are the same exactly if their bytes agree on the free bits. -/
theorem generate_eq_iff {x y : Vector UInt8 16} :
    generate x = generate y ↔ ∀ p ∈ freeBits, bit x p = bit y p := by
  calc generate x = generate y
      ↔ stamp x = stamp y :=
        ⟨fun h => hyphenated_inj (String.ofList_injective h),
          fun h => congrArg (fun v => String.ofList (hyphenated v)) h⟩
    _ ↔ ∀ p, bit (stamp x) p = bit (stamp y) p := eq_iff_bit
    _ ↔ ∀ p ∈ freeBits, bit x p = bit y p := by
        refine forall_congr' fun p => ?_
        rw [bit_stamp, bit_stamp, mem_freeBits]
        cases isStamped p <;> simp

end Identifier
end Roster
