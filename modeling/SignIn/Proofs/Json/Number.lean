import SignIn.Json.Printer
import SignIn.Proofs.Json.Spelling

/-! Printed numbers are spelled as numbers are. -/

namespace SignIn.Json

theorem number_append (s t : Bytes) : number (s ++ t) = t.foldl (fun n b => n * 10 + (b.toNat - 48)) (number s) :=
  List.foldl_append

theorem printNat_append {m k : Nat} (hk : k < 10) (hm : 0 < m) :
    printNat (10 * m + k) = printNat m ++ printNat k := by
  rw [printNat, ← Nat.toDigits_append_toDigits (by decide) hm hk, List.map_append, printNat, printNat]

theorem number_printDigit : ∀ k < 10, number (printNat k) = k := by decide

theorem printNat_of_lt {k : Nat} (hk : k < 10) : printNat k = [.ofNat k.digitChar.toNat] := by
  rw [printNat, Nat.toDigits_of_lt_base hk, List.map_singleton]

theorem isDigit_printDigit : ∀ k < 10, isDigit (.ofNat k.digitChar.toNat) := by decide

@[simp] theorem number_printNat (n : Nat) : number (printNat n) = n := by
  induction n using Nat.base_induction 10 (by decide) with
  | single k hk => exact number_printDigit k hk
  | digit m k hk hm ih =>
    have h := number_printDigit k hk
    rw [printNat_of_lt hk] at h
    simp only [number, List.foldl_cons, List.foldl_nil] at h
    rw [printNat_append hk hm, number_append, ih, printNat_of_lt hk]
    simp only [List.foldl_cons, List.foldl_nil]
    omega

theorem isDigit_of_mem_printNat {n : Nat} : ∀ b ∈ printNat n, isDigit b := by
  induction n using Nat.base_induction 10 (by decide) with
  | single k hk =>
    intro b hb
    rw [printNat_of_lt hk, List.mem_singleton] at hb
    exact hb ▸ isDigit_printDigit k hk
  | digit m k hk hm ih =>
    intro b hb
    rw [printNat_append hk hm, printNat_of_lt hk, List.mem_append, List.mem_singleton] at hb
    rcases hb with hb | rfl
    · exact ih b hb
    · exact isDigit_printDigit k hk

theorem printNat_ne_nil (n : Nat) : printNat n ≠ [] := by simp [printNat]

theorem digits_printNat (n : Nat) : Digits (printNat n) := ⟨printNat_ne_nil n, isDigit_of_mem_printNat⟩

/-- A number other than zero is written without leading zeros. -/
theorem head?_printNat {n : Nat} (hn : 0 < n) : (printNat n).head? ≠ some 0x30 := by
  induction n using Nat.base_induction 10 (by decide) with
  | single k hk =>
    have h : ∀ k < 10, 0 < k → (printNat k).head? ≠ some 0x30 := by decide
    exact h k hk hn
  | digit m k hk hm ih =>
    rw [printNat_append hk hm, List.head?_append, Option.or_of_isSome (by simp [printNat])]
    exact ih hm

theorem no_leading_zero {n : Nat} (h : (printNat n).head? = some 0x30) : (printNat n).length = 1 := by
  rcases Nat.eq_zero_or_pos n with rfl | hn
  · rfl
  · exact absurd h (head?_printNat hn)

theorem ofParts_int (negative : Bool) (m : Nat) (h : negative = true → 0 < m) :
    ofParts negative (printNat m) none none = .int (if negative then -m else m) := by
  cases negative with
  | true =>
    have hm : m ≠ 0 := by simpa [Nat.pos_iff_ne_zero] using h
    simp [ofParts, hm]
  | false => simp [ofParts]

theorem unsigned_int (negative : Bool) (m : Nat) (h : negative = true → 0 < m) :
    Unsigned negative (.int (if negative then -m else m)) (printNat m) := by
  have hu : Unsigned negative _ _ := .mk (digits_printNat m) no_leading_zero .absent .absent
  rwa [ofParts_int negative m h, List.append_nil, List.append_nil] at hu

theorem numeral_printInt (n : Int) : Numeral (.int n) (printInt n) := by
  unfold printInt
  split
  next hn =>
    have h := unsigned_int true n.natAbs (by omega)
    rw [if_pos rfl, show -(n.natAbs : Int) = n by omega] at h
    exact .negative h
  next hn =>
    have h := unsigned_int false n.natAbs (by simp)
    rw [if_neg Bool.false_ne_true, show (n.natAbs : Int) = n by omega] at h
    exact .positive h

theorem exponent_printInt (e : Int) : Exponent (some e) (0x65 :: printInt e) := by
  unfold printInt
  split
  next he =>
    have h := Exponent.present (.inl rfl) .minus (digits_printNat e.natAbs)
    rwa [number_printNat, if_pos rfl, show -(e.natAbs : Int) = e by omega] at h
  next he =>
    have h := Exponent.present (.inl rfl) .absent (digits_printNat e.natAbs)
    rwa [number_printNat, if_neg Bool.false_ne_true, show (e.natAbs : Int) = e by omega] at h

theorem numeral_real (negative : Bool) (m : Nat) (e : Int) :
    Numeral (.real negative m e) ((if negative then [0x2D] else []) ++ printNat m ++ 0x65 :: printInt e) := by
  have h : Unsigned negative (.real negative m e) (printNat m ++ 0x65 :: printInt e) := by
    have h : Unsigned negative _ _ := .mk (digits_printNat m) no_leading_zero .absent (exponent_printInt e)
    rwa [show ofParts negative (printNat m) none (some e) = .real negative m e by simp [ofParts], List.nil_append] at h
  cases negative with
  | true => exact .negative h
  | false => exact .positive h

end SignIn.Json
