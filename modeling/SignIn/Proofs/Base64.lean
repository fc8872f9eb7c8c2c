import SignIn.Base64

/-! Base64 is read back as it was written, and is written with its digits alone. Octets have one writing: whatever is
read as some octets is what they are written as. -/

namespace SignIn.Base64

/-- Every digit has the value it stands for. -/
def Lawful (v : Base64) : Prop := ∀ n < 64, v.value? (v.digit n) = some n

theorem url_lawful : url.Lawful := by
  unfold Lawful
  decide

theorem standard_lawful : standard.Lawful := by
  unfold Lawful
  decide

theorem ofNat_eq {n : Nat} {a : UInt8} (h : n % 256 = a.toNat) : UInt8.ofNat n = a := by
  apply UInt8.toNat_inj.1
  rw [UInt8.toNat_ofNat', h]

theorem decode?_encode {v : Base64} (hv : v.Lawful) (b : Bytes) : v.decode? (v.encode b) = some b := by
  induction b using encode.induct with
  | case1 a b c r ih =>
    have ha := a.toNat_lt
    have hb := b.toNat_lt
    have hc := c.toNat_lt
    simp only [encode, decode?]
    rw [hv _ (by omega), hv _ (by omega), hv _ (by omega), hv _ (by omega), ih]
    simp only [Option.bind_eq_bind, Option.bind_some, Option.pure_def]
    rw [ofNat_eq (a := a) (by omega), ofNat_eq (a := b) (by omega), ofNat_eq (a := c) (by omega)]
  | case2 a b =>
    have ha := a.toNat_lt
    have hb := b.toNat_lt
    simp only [encode, decode?]
    rw [hv _ (by omega), hv _ (by omega), hv _ (by omega)]
    simp only [Option.bind_eq_bind, Option.bind_some]
    rw [if_pos (by omega), ofNat_eq (a := a) (by omega), ofNat_eq (a := b) (by omega)]
  | case3 a =>
    have ha := a.toNat_lt
    simp only [encode, decode?]
    rw [hv _ (by omega), hv _ (by omega)]
    simp only [Option.bind_eq_bind, Option.bind_some]
    rw [if_pos (by omega), ofNat_eq (a := a) (by omega)]
  | case4 => rfl

theorem length_encode (v : Base64) (b : Bytes) : (v.encode b).length = (b.length * 4 + 2) / 3 := by
  induction b using encode.induct with
  | case1 a b c r ih =>
    simp only [encode, List.length_cons, ih]
    omega
  | case2 a b => simp [encode]
  | case3 a => simp [encode]
  | case4 => rfl

/-- A value stands for one digit alone. -/
theorem digit_of_value?_eq_some {v : Base64} {c : Char} {n : Nat} (h : v.value? c = some n) :
    n < 64 ∧ v.digit n = c := by
  have hnat (a b : Char) : a ≤ b ↔ a.toNat ≤ b.toNat := Iff.rfl
  simp only [value?, hnat] at h
  split at h
  next hc =>
    obtain ⟨h1, h2⟩ : 65 ≤ c.toNat ∧ c.toNat ≤ 90 := hc
    obtain rfl : c.toNat - 65 = n := Option.some.inj h
    refine ⟨by omega, ?_⟩
    rw [digit, if_pos (by omega), Nat.add_sub_cancel' h1, Char.ofNat_toNat]
  next =>
  split at h
  next hc =>
    obtain ⟨h1, h2⟩ : 97 ≤ c.toNat ∧ c.toNat ≤ 122 := hc
    obtain rfl : c.toNat - 71 = n := Option.some.inj h
    refine ⟨by omega, ?_⟩
    rw [digit, if_neg (by omega), if_pos (by omega), Nat.add_sub_cancel' (by omega), Char.ofNat_toNat]
  next =>
  split at h
  next hc =>
    obtain ⟨h1, h2⟩ : 48 ≤ c.toNat ∧ c.toNat ≤ 57 := hc
    obtain rfl : c.toNat + 4 = n := Option.some.inj h
    refine ⟨by omega, ?_⟩
    rw [digit, if_neg (by omega), if_neg (by omega), if_pos (by omega), Nat.add_sub_cancel, Char.ofNat_toNat]
  next =>
  split at h
  next hc =>
    obtain rfl : 62 = n := Option.some.inj h
    exact ⟨by decide, hc.symm⟩
  next =>
  split at h
  next hc =>
    obtain rfl : 63 = n := Option.some.inj h
    exact ⟨by decide, hc.symm⟩
  next => cases h

/-- Nothing but what `encode` writes is read. -/
theorem encode_of_decode? {v : Base64} {s : List Char} {b : Bytes} (h : v.decode? s = some b) : v.encode b = s := by
  induction s using decode?.induct generalizing b with
  | case1 c₁ c₂ c₃ c₄ r ih =>
    simp only [decode?, Option.bind_eq_bind, Option.bind_eq_some_iff, Option.pure_def, Option.some.injEq] at h
    obtain ⟨n₁, h₁, n₂, h₂, n₃, h₃, n₄, h₄, b', hb, rfl⟩ := h
    obtain ⟨l₁, rfl⟩ := digit_of_value?_eq_some h₁
    obtain ⟨l₂, rfl⟩ := digit_of_value?_eq_some h₂
    obtain ⟨l₃, rfl⟩ := digit_of_value?_eq_some h₃
    obtain ⟨l₄, rfl⟩ := digit_of_value?_eq_some h₄
    simp only [encode, ih hb, UInt8.toNat_ofNat', List.cons.injEq, and_true]
    exact ⟨congrArg v.digit (by omega), congrArg v.digit (by omega), congrArg v.digit (by omega),
      congrArg v.digit (by omega)⟩
  | case2 c₁ c₂ c₃ =>
    simp only [decode?, Option.bind_eq_bind, Option.bind_eq_some_iff] at h
    obtain ⟨n₁, h₁, n₂, h₂, n₃, h₃, h⟩ := h
    obtain ⟨l₁, rfl⟩ := digit_of_value?_eq_some h₁
    obtain ⟨l₂, rfl⟩ := digit_of_value?_eq_some h₂
    obtain ⟨l₃, rfl⟩ := digit_of_value?_eq_some h₃
    split at h
    next hz =>
      obtain rfl := Option.some.inj h
      replace hz : n₃ % 4 = 0 := by omega
      simp only [encode, UInt8.toNat_ofNat', List.cons.injEq, and_true]
      exact ⟨congrArg v.digit (by omega), congrArg v.digit (by omega), congrArg v.digit (by omega)⟩
    next => contradiction
  | case3 c₁ c₂ =>
    simp only [decode?, Option.bind_eq_bind, Option.bind_eq_some_iff] at h
    obtain ⟨n₁, h₁, n₂, h₂, h⟩ := h
    obtain ⟨l₁, rfl⟩ := digit_of_value?_eq_some h₁
    obtain ⟨l₂, rfl⟩ := digit_of_value?_eq_some h₂
    split at h
    next hz =>
      obtain rfl := Option.some.inj h
      replace hz : n₂ % 16 = 0 := by omega
      simp only [encode, UInt8.toNat_ofNat', List.cons.injEq, and_true]
      exact ⟨congrArg v.digit (by omega), congrArg v.digit (by omega)⟩
    next => contradiction
  | case4 c => contradiction
  | case5 =>
    obtain rfl := Option.some.inj h
    rfl

/-- What is encoded is written with digits alone. -/
theorem exists_digit_of_mem_encode {v : Base64} {b : Bytes} {c : Char} (h : c ∈ v.encode b) :
    ∃ n < 64, c = v.digit n := by
  induction b using encode.induct with
  | case1 x y z r ih =>
    have hx := x.toNat_lt
    have hy := y.toNat_lt
    have hz := z.toNat_lt
    simp only [encode, List.mem_cons] at h
    rcases h with h | h | h | h | h
    · exact ⟨_, by omega, h⟩
    · exact ⟨_, by omega, h⟩
    · exact ⟨_, by omega, h⟩
    · exact ⟨_, by omega, h⟩
    · exact ih h
  | case2 x y =>
    have hx := x.toNat_lt
    have hy := y.toNat_lt
    simp only [encode, List.mem_cons, List.not_mem_nil, or_false] at h
    rcases h with h | h | h
    · exact ⟨_, by omega, h⟩
    · exact ⟨_, by omega, h⟩
    · exact ⟨_, by omega, h⟩
  | case3 x =>
    have hx := x.toNat_lt
    simp only [encode, List.mem_cons, List.not_mem_nil, or_false] at h
    rcases h with h | h
    · exact ⟨_, by omega, h⟩
    · exact ⟨_, by omega, h⟩
  | case4 => simp [encode] at h

theorem not_mem_encode {v : Base64} {c : Char} (hc : ∀ n < 64, v.digit n ≠ c) (b : Bytes) : c ∉ v.encode b := by
  intro h
  obtain ⟨n, hn, rfl⟩ := exists_digit_of_mem_encode h
  exact hc n hn rfl

theorem point_not_mem_encode_url (b : Bytes) : '.' ∉ url.encode b := not_mem_encode (by decide) b

theorem dollar_not_mem_encode (b : Bytes) : '$' ∉ standard.encode b := not_mem_encode (by decide) b

end SignIn.Base64
