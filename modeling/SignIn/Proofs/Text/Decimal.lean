import Mathlib.Data.List.Induction
import SignIn.Text.Digits

/-! Decimal numbers: the digits of a number are what it is read from, and nothing else is. -/

namespace SignIn.Text

theorem ofDigits_eq (ds : List Char) : ofDigits ds = Nat.ofDigitChars 10 ds 0 := by
  unfold ofDigits Nat.ofDigitChars
  simp only [Nat.mul_comm]
  rfl

theorem ofDigits_concat (ds : List Char) (c : Char) : ofDigits (ds ++ [c]) = 10 * ofDigits ds + (c.toNat - 48) := by
  simp [ofDigits, Nat.mul_comm]

/-- A number other than zero is written without leading zeros. -/
theorem head?_toDigits {n : Nat} (hn : 0 < n) : (Nat.toDigits 10 n).head? ≠ some '0' := by
  induction n using Nat.base_induction 10 (by decide) with
  | single k hk =>
    have h : ∀ k < 10, 0 < k → (Nat.toDigits 10 k).head? ≠ some '0' := by decide
    exact h k hk hn
  | digit m k hk hm ih =>
    rw [← Nat.toDigits_append_toDigits (by decide) hm hk, List.head?_append,
      Option.or_of_isSome (by simp)]
    exact ih hm

theorem decimal?_toDigits (n : Nat) : decimal? (Nat.toDigits 10 n) = some n := by
  have hd : ∀ c ∈ Nat.toDigits 10 n, c.isDigit := fun c hc => Nat.isDigit_of_mem_toDigits (by decide) (by decide) hc
  rw [decimal?, if_pos, digits?, if_pos ⟨Nat.toDigits_ne_nil, List.all_eq_true.2 hd⟩, ofDigits_eq,
    Nat.ofDigitChars_ten_toDigits]
  intro h
  rcases Nat.eq_zero_or_pos n with rfl | hn
  · rfl
  · exact absurd h (head?_toDigits hn)

theorem digitChar_of_isDigit {c : Char} (h : c.isDigit) : c.toNat - 48 < 10 ∧ Nat.digitChar (c.toNat - 48) = c := by
  simp only [Char.isDigit, Bool.and_eq_true, decide_eq_true_eq, UInt32.le_iff_toNat_le] at h
  obtain ⟨hl, hu⟩ := h
  have hl : 48 ≤ c.toNat := hl
  have hu : c.toNat ≤ 57 := hu
  refine ⟨by omega, Char.toNat_inj.1 ?_⟩
  rw [Nat.toNat_digitChar_of_lt_ten (by omega)]
  omega

/-- Digits without a needless zero in front are those of the number that they write. -/
theorem toDigits_ofDigits {s : List Char} (hne : s ≠ []) (hd : ∀ c ∈ s, c.isDigit)
    (hz : s.head? = some '0' → s.length = 1) : Nat.toDigits 10 (ofDigits s) = s := by
  induction s using List.reverseRecOn with
  | nil => exact absurd rfl hne
  | append_singleton s c ih =>
    obtain ⟨hlt, hc⟩ := digitChar_of_isDigit (hd c (by simp))
    rw [ofDigits_concat]
    by_cases hs : s = []
    · subst hs
      rw [show ofDigits [] = 0 from rfl, Nat.mul_zero, Nat.zero_add, Nat.toDigits_of_lt_base hlt, hc, List.nil_append]
    · have hhead : s.head? ≠ some '0' := by
        intro h
        have hl := hz (by rw [List.head?_append, h, Option.some_or])
        rw [List.length_append, List.length_singleton] at hl
        exact hs (List.length_eq_zero_iff.1 (by omega))
      have ih := ih hs (fun d h => hd d (List.mem_append_left _ h)) fun h => absurd h hhead
      -- a number that is written otherwise than with the digit zero is positive
      have hpos : 0 < ofDigits s := by
        refine Nat.pos_of_ne_zero fun h => hhead ?_
        rw [h] at ih
        rw [← ih]
        rfl
      rw [← Nat.toDigits_append_toDigits (by decide) hpos hlt, ih, Nat.toDigits_of_lt_base hlt, hc]

theorem decimal?_eq_some_iff {s : List Char} {n : Nat} : decimal? s = some n ↔ s = Nat.toDigits 10 n := by
  constructor
  · intro h
    unfold decimal? at h
    split at h
    next hz =>
      unfold digits? at h
      split at h
      next hd =>
        obtain rfl := Option.some.inj h
        exact (toDigits_ofDigits hd.1 (List.all_eq_true.1 hd.2) hz).symm
      next => contradiction
    next => contradiction
  · rintro rfl
    exact decimal?_toDigits n

end SignIn.Text
