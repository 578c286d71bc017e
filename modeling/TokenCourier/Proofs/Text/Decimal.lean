import Mathlib
import TokenCourier.Text.Decimal

namespace TokenCourier.Decimal

def Writes (s : String) (n : Nat) : Prop :=
  ∃ ds : List Char, (s.toList = ds ∨ s.toList = '+' :: ds) ∧ ds ≠ [] ∧ (∀ c ∈ ds, c.isDigit) ∧
    Nat.ofDigitChars 10 ds 0 = n

variable {most m n : Nat} {ds : List Char} {s : String}

theorem le_ofDigitChars (m : Nat) (ds : List Char) : m ≤ Nat.ofDigitChars 10 ds m := by
  induction ds generalizing m with
  | nil => exact Nat.le_refl m
  | cons c ds ih =>
    rw [Nat.ofDigitChars_cons]
    have hi := ih (10 * m + (c.toNat - '0'.toNat))
    omega

/-- The number grows with each digit, so that it is too large at the end if it ever is. -/
theorem digits_ok_iff (hm : m ≤ most) : digits most m ds = .ok n ↔
    (∀ c ∈ ds, c.isDigit) ∧ Nat.ofDigitChars 10 ds m = n ∧ n ≤ most := by
  induction ds generalizing m with
  | nil =>
    rw [digits, Except.ok.injEq, Nat.ofDigitChars_nil]
    refine ⟨fun h => ⟨by simp, h, h ▸ hm⟩, fun h => h.2.1⟩
  | cons c ds ih =>
    rw [digits, List.forall_mem_cons, Nat.ofDigitChars_cons]
    change _ ↔ _ ∧ Nat.ofDigitChars 10 ds (10 * m + (c.toNat - 48)) = n ∧ _
    cases hc : c.isDigit with
    | false => simp
    | true =>
      by_cases ho : most < 10 * m + (c.toNat - 48)
      · have hl := le_ofDigitChars (10 * m + (c.toNat - 48)) ds
        simp only [Bool.not_true, Bool.false_eq_true, ↓reduceIte, ho, reduceCtorEq, false_iff]
        rintro ⟨-, rfl, hn⟩
        omega
      · simp only [Bool.not_true, Bool.false_eq_true, ↓reduceIte, ho, true_and]
        exact ih (Nat.not_lt.mp ho)

theorem writes_signed (h : s.toList = '+' :: ds) : Writes s n ↔
    ds ≠ [] ∧ (∀ c ∈ ds, c.isDigit) ∧ Nat.ofDigitChars 10 ds 0 = n := by
  constructor
  · rintro ⟨es, hs | hs, hn, hd, hv⟩
    · rw [← hs, h] at hd
      exact absurd (hd '+' List.mem_cons_self) (by decide)
    · obtain rfl := (List.cons.inj (h.symm.trans hs)).2
      exact ⟨hn, hd, hv⟩
  · rintro ⟨hn, hd, hv⟩
    exact ⟨ds, .inr h, hn, hd, hv⟩

theorem writes_unsigned (h : s.toList.head? ≠ some '+') : Writes s n ↔
    s.toList ≠ [] ∧ (∀ c ∈ s.toList, c.isDigit) ∧ Nat.ofDigitChars 10 s.toList 0 = n := by
  constructor
  · rintro ⟨es, hs | hs, hn, hd, hv⟩
    · subst hs
      exact ⟨hn, hd, hv⟩
    · exact absurd (by rw [hs]; rfl) h
  · rintro ⟨hn, hd, hv⟩
    exact ⟨s.toList, .inl rfl, hn, hd, hv⟩

theorem read_ok_iff : read most s = .ok n ↔ Writes s n ∧ n ≤ most := by
  rw [read]
  split
  · next h =>
    rw [writes_unsigned (by simp [h])]
    simp [h]
  · next h =>
    rw [writes_signed h]
    simp
  · next cs hn h =>
    have hc : cs ≠ [] := by
      rintro rfl
      exact hn rfl
    rw [writes_signed h, digits_ok_iff (Nat.zero_le _)]
    simp [hc, and_assoc]
  · next hn _ hp =>
    have hs : s.toList.head? ≠ some '+' := by
      intro hs
      obtain ⟨cs, hc⟩ := List.head?_eq_some_iff.mp hs
      exact hp cs hc
    rw [writes_unsigned hs, digits_ok_iff (Nat.zero_le _)]
    simp only [ne_eq, show s.toList ≠ [] from hn, not_false_eq_true, true_and, and_assoc]

/-- A text that is not read writes no number that is not too large. -/
theorem lt_of_read_error {f : NumberFault} (h : read most s = .error f) (hw : Writes s n) :
    most < n := by
  by_contra hn
  rw [read_ok_iff.mpr ⟨hw, Nat.not_lt.mp hn⟩] at h
  cases h

theorem Writes.unique (hm : Writes s m) (hn : Writes s n) : m = n := by
  have h := read_ok_iff.mpr ⟨hm, Nat.le_max_left m n⟩
  rw [read_ok_iff.mpr ⟨hn, Nat.le_max_right m n⟩] at h
  cases h
  rfl

end TokenCourier.Decimal
