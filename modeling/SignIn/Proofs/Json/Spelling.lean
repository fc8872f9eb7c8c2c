import SignIn.Json.Reader

/-! How strings and numbers are spelled, and that just these spellings are read. -/

namespace SignIn.Json

/-- Spaces, tabs and ends of lines. -/
def Blanks (s : Bytes) : Prop := ∀ b ∈ s, b = 0x20 ∨ b = 0x09 ∨ b = 0x0A ∨ b = 0x0D

theorem Blanks.nil : Blanks [] := by simp [Blanks]

theorem skipBlanks_append {b : Bytes} (hb : Blanks b) (r : Bytes) : skipBlanks (b ++ r) = skipBlanks r := by
  induction b with
  | nil => rfl
  | cons x b ih =>
    obtain ⟨hx, hb⟩ := List.forall_mem_cons.1 hb
    rw [List.cons_append, skipBlanks, if_pos hx, ih hb]

theorem exists_blanks (s : Bytes) : ∃ b, Blanks b ∧ s = b ++ skipBlanks s := by
  induction s with
  | nil => exact ⟨[], .nil, rfl⟩
  | cons x s ih =>
    rw [skipBlanks]
    split
    next hx =>
      obtain ⟨b, hb, hs⟩ := ih
      exact ⟨x :: b, List.forall_mem_cons.2 ⟨hx, hb⟩, by rw [List.cons_append, ← hs]⟩
    next => exact ⟨[], .nil, rfl⟩

@[simp] theorem skipBlanks_skipBlanks (s : Bytes) : skipBlanks (skipBlanks s) = skipBlanks s := by
  obtain ⟨b, hb, hs⟩ := exists_blanks s
  conv => rhs; rw [hs, skipBlanks_append hb]

/-- A string between its quotes. -/
inductive Spelling : Pieces → Bytes → Prop where
  | nil : Spelling [] []
  | plain {b : UInt8} {s : Pieces} {t : Bytes} (hc : ¬b < 0x20) (hq : b ≠ 0x22) (he : b ≠ 0x5C)
    (h : Spelling s t) : Spelling (.octet b :: s) (b :: t)
  | escape {b c : UInt8} {s : Pieces} {t : Bytes} (hb : escaped? b = some c) (h : Spelling s t) :
    Spelling (.octet c :: s) (0x5C :: b :: t)
  | unit {a b c d : UInt8} {p : Piece} {s : Pieces} {t : Bytes} (hu : unit? a b c d = some p) (h : Spelling s t) :
    Spelling (p :: s) (0x5C :: 0x75 :: a :: b :: c :: d :: t)

theorem Spelling.read {s : Pieces} {t : Bytes} (h : Spelling s t) (r : Bytes) :
    readString (t ++ 0x22 :: r) = some (s, r) := by
  induction h with
  | nil => rfl
  | plain hc hq he _ ih =>
    rw [List.cons_append, readString.eq_5 _ _ hq (fun _ _ _ _ _ h _ => he h) (fun _ _ h _ => he h),
      if_neg (not_or.2 ⟨hc, he⟩), ih]
    rfl
  | escape hb _ ih =>
    have hu (x : UInt8) (h : escaped? 0x75 = some x) : False := by contradiction
    rw [List.cons_append, List.cons_append, readString.eq_4 _ _ (fun _ _ _ _ _ h _ => hu _ (h ▸ hb)), hb, ih]
    rfl
  | unit hu _ ih =>
    simp only [List.cons_append, readString, hu, ih]
    rfl

theorem exists_spelling {s : Pieces} {t r : Bytes} (h : readString t = some (s, r)) :
    ∃ u, Spelling s u ∧ t = u ++ 0x22 :: r := by
  fun_induction readString t generalizing s r with
  | case1 => contradiction
  | case2 t =>
    cases h
    exact ⟨[], .nil, rfl⟩
  | case3 a b c d t ih =>
    simp only [Option.bind_eq_bind, Option.bind_eq_some_iff, Option.pure_def, Option.some.injEq, Prod.mk.injEq] at h
    obtain ⟨p, hp, ⟨s, _⟩, hs, rfl, rfl⟩ := h
    obtain ⟨u, hu, rfl⟩ := ih hs
    exact ⟨_, .unit hp hu, rfl⟩
  | case4 b t _ ih =>
    simp only [Option.bind_eq_bind, Option.bind_eq_some_iff, Option.pure_def, Option.some.injEq, Prod.mk.injEq] at h
    obtain ⟨c, hc, ⟨s, _⟩, hs, rfl, rfl⟩ := h
    obtain ⟨u, hu, rfl⟩ := ih hs
    exact ⟨_, .escape hc hu, rfl⟩
  | case5 => contradiction
  | case6 b t hq _ _ hb ih =>
    simp only [Option.bind_eq_bind, Option.bind_eq_some_iff, Option.pure_def, Option.some.injEq, Prod.mk.injEq] at h
    obtain ⟨⟨s, _⟩, hs, rfl, rfl⟩ := h
    obtain ⟨u, hu, rfl⟩ := ih hs
    obtain ⟨hc, he⟩ := not_or.1 hb
    exact ⟨_, .plain hc hq he hu, rfl⟩

def Digits (s : Bytes) : Prop := s ≠ [] ∧ ∀ b ∈ s, isDigit b

inductive Fraction : Option Bytes → Bytes → Prop where
  | absent : Fraction none []
  | present {ds : Bytes} (h : Digits ds) : Fraction (some ds) (0x2E :: ds)

/-- What may stand between an exponent's letter and its digits. -/
inductive Sign : Bool → Bytes → Prop where
  | absent : Sign false []
  | plus : Sign false [0x2B]
  | minus : Sign true [0x2D]

inductive Exponent : Option Int → Bytes → Prop where
  | absent : Exponent none []
  | present {e : UInt8} {negative : Bool} {sign ds : Bytes} (he : e = 0x65 ∨ e = 0x45) (hs : Sign negative sign)
    (h : Digits ds) : Exponent (some (if negative then -number ds else number ds)) (e :: (sign ++ ds))

/-- A number after its sign. Only zero itself begins with a zero. -/
inductive Unsigned (negative : Bool) : Json → Bytes → Prop where
  | mk {whole f e : Bytes} {fraction : Option Bytes} {exponent : Option Int} (hw : Digits whole)
    (hz : whole.head? = some 0x30 → whole.length = 1) (hf : Fraction fraction f) (he : Exponent exponent e) :
    Unsigned negative (ofParts negative whole fraction exponent) (whole ++ (f ++ e))

inductive Numeral : Json → Bytes → Prop where
  | positive {v : Json} {s : Bytes} (h : Unsigned false v s) : Numeral v s
  | negative {v : Json} {s : Bytes} (h : Unsigned true v s) : Numeral v (0x2D :: s)

/-- What follows a number does not go on with it. -/
def Ends (r : Bytes) : Prop := ∀ b ∈ r.head?, isDigit b = false ∧ b ≠ 0x2E ∧ b ≠ 0x65 ∧ b ≠ 0x45

theorem Ends.nil : Ends [] := by simp [Ends]

theorem Ends.cons {b : UInt8} (h : isDigit b = false ∧ b ≠ 0x2E ∧ b ≠ 0x65 ∧ b ≠ 0x45) (r : Bytes) :
    Ends (b :: r) := by simpa [Ends] using h

theorem Ends.blanks {b r : Bytes} (hb : Blanks b) (hr : Ends r) : Ends (b ++ r) := by
  cases b with
  | nil => exact hr
  | cons x b =>
    refine .cons ?_ _
    rcases hb x List.mem_cons_self with rfl | rfl | rfl | rfl <;> decide

theorem takeDigits_append {ds r : Bytes} (hd : ∀ b ∈ ds, isDigit b) (hr : ∀ b ∈ r.head?, isDigit b = false) :
    takeDigits (ds ++ r) = (ds, r) := by
  rw [takeDigits, List.takeWhile_append_of_pos hd, List.dropWhile_append_of_pos hd]
  cases r with
  | nil => simp
  | cons b r => simp [hr b rfl]

/-- What `takeDigits` takes are digits, if it takes any. -/
theorem exists_digits (s : Bytes) : ∃ ds r, takeDigits s = (ds, r) ∧ s = ds ++ r ∧ ∀ b ∈ ds, isDigit b :=
  ⟨_, _, rfl, List.takeWhile_append_dropWhile.symm, List.all_eq_true.1 List.all_takeWhile⟩

theorem Fraction.read {fraction : Option Bytes} {f r : Bytes} (h : Fraction fraction f)
    (hr : ∀ b ∈ r.head?, isDigit b = false ∧ b ≠ 0x2E) : readFraction (f ++ r) = some (fraction, r) := by
  cases h with
  | absent =>
    rw [List.nil_append]
    unfold readFraction
    split
    next => exact absurd rfl (hr _ rfl).2
    next => rfl
  | present hd =>
    simp only [List.cons_append, readFraction, takeDigits_append hd.2 fun b hb => (hr b hb).1,
      if_neg hd.1]

theorem exists_fraction {fraction : Option Bytes} {s r : Bytes} (h : readFraction s = some (fraction, r)) :
    ∃ f, Fraction fraction f ∧ s = f ++ r := by
  unfold readFraction at h
  split at h
  next s =>
    obtain ⟨ds, t, hs, rfl, hd⟩ := exists_digits s
    simp only [hs] at h
    split at h
    next => contradiction
    next hne =>
      cases h
      exact ⟨_, .present ⟨hne, hd⟩, rfl⟩
  next =>
    cases h
    exact ⟨[], .absent, rfl⟩

theorem Sign.read {negative : Bool} {sign ds : Bytes} (h : Sign negative sign) (hd : Digits ds) (r : Bytes) :
    readSign (sign ++ (ds ++ r)) = (negative, ds ++ r) := by
  cases h with
  | plus => rfl
  | minus => rfl
  | absent =>
    obtain ⟨hne, hd⟩ := hd
    obtain ⟨b, s, rfl⟩ := List.exists_cons_of_ne_nil hne
    have hb := hd b List.mem_cons_self
    rw [List.nil_append, List.cons_append]
    unfold readSign
    split
    next e => rw [(List.cons.inj e).1] at hb; contradiction
    next e => rw [(List.cons.inj e).1] at hb; contradiction
    next => rfl

theorem exists_sign (s : Bytes) : ∃ negative sign r, readSign s = (negative, r) ∧ Sign negative sign ∧
    s = sign ++ r := by
  unfold readSign
  split
  next => exact ⟨_, _, _, rfl, .plus, rfl⟩
  next => exact ⟨_, _, _, rfl, .minus, rfl⟩
  next => exact ⟨_, _, _, rfl, .absent, rfl⟩

theorem Exponent.read {exponent : Option Int} {e r : Bytes} (h : Exponent exponent e) (hr : Ends r) :
    readExponent (e ++ r) = some (exponent, r) := by
  cases h with
  | absent =>
    cases r with
    | nil => rfl
    | cons b r =>
      obtain ⟨-, -, h⟩ := hr b rfl
      simp [readExponent, h]
  | present he hs hd =>
    simp only [List.cons_append, List.append_assoc, readExponent, if_pos he, hs.read hd,
      takeDigits_append hd.2 fun b hb => (hr b hb).1, if_neg hd.1]

theorem exists_exponent {exponent : Option Int} {s r : Bytes} (h : readExponent s = some (exponent, r)) :
    ∃ e, Exponent exponent e ∧ s = e ++ r := by
  unfold readExponent at h
  split at h
  next b s =>
    split at h
    next he =>
      obtain ⟨negative, sign, t, hs, hsign, rfl⟩ := exists_sign s
      obtain ⟨ds, t, ht, rfl, hd⟩ := exists_digits t
      simp only [hs, ht] at h
      split at h
      next => contradiction
      next hne =>
        cases h
        exact ⟨_, .present he hsign ⟨hne, hd⟩, by simp⟩
    next =>
      cases h
      exact ⟨[], .absent, rfl⟩
  next =>
    cases h
    exact ⟨[], .absent, rfl⟩

/-- A number after its sign. -/
def readUnsigned (negative : Bool) (s : Bytes) : Option (Json × Bytes) :=
  let whole := (takeDigits s).1
  if whole = [] ∨ (whole.head? = some 0x30 ∧ whole.length ≠ 1) then none
  else (readFraction (takeDigits s).2).bind fun f => (readExponent f.2).bind fun e =>
    some (ofParts negative whole f.1 e.1, e.2)

theorem readNumber_negative (s : Bytes) : readNumber (0x2D :: s) = readUnsigned true s := rfl

theorem readNumber_of_ne {s : Bytes} (hs : ∀ r, s ≠ 0x2D :: r) : readNumber s = readUnsigned false s := by
  unfold readNumber
  split
  next h =>
    split at h
    next => exact absurd rfl (hs _)
    next =>
      cases h
      rfl

theorem Unsigned.read {negative : Bool} {v : Json} {s r : Bytes} (h : Unsigned negative v s) (hr : Ends r) :
    readUnsigned negative (s ++ r) = some (v, r) := by
  obtain @⟨whole, f, e, fraction, exponent, hw, hz, hf, he⟩ := h
  have hfraction : ∀ b ∈ (e ++ r).head?, isDigit b = false ∧ b ≠ 0x2E := by
    cases he with
    | absent => exact fun b hb => ⟨(hr b hb).1, (hr b hb).2.1⟩
    | present he => rcases he with rfl | rfl <;> simp <;> decide
  have hwhole : ∀ b ∈ (f ++ (e ++ r)).head?, isDigit b = false := by
    cases hf with
    | absent => exact fun b hb => (hfraction b hb).1
    | present => simp; decide
  simp only [readUnsigned, List.append_assoc, takeDigits_append hw.2 hwhole, hf.read hfraction, he.read hr,
    Option.bind_some]
  rw [if_neg]
  rintro (h | ⟨h, hl⟩)
  · exact hw.1 h
  · exact hl (hz h)

theorem exists_unsigned {negative : Bool} {v : Json} {s r : Bytes} (h : readUnsigned negative s = some (v, r)) :
    ∃ t, Unsigned negative v t ∧ s = t ++ r := by
  obtain ⟨whole, t, hs, rfl, hd⟩ := exists_digits s
  simp only [readUnsigned, hs] at h
  split at h
  next => contradiction
  next hw =>
    simp only [Option.bind_eq_some_iff, Option.some.injEq, Prod.mk.injEq] at h
    obtain ⟨⟨fraction, _⟩, hf, ⟨exponent, _⟩, he, rfl, rfl⟩ := h
    obtain ⟨f, hfraction, rfl⟩ := exists_fraction hf
    obtain ⟨e, hexponent, rfl⟩ := exists_exponent he
    obtain ⟨hne, hz⟩ := not_or.1 hw
    refine ⟨_, .mk ⟨hne, hd⟩ (fun h => Decidable.not_not.1 fun hl => hz ⟨h, hl⟩) hfraction hexponent, ?_⟩
    rw [List.append_assoc, List.append_assoc]

/-- A number begins with a minus sign or a digit. -/
theorem Unsigned.exists_cons {negative : Bool} {v : Json} {s : Bytes} (h : Unsigned negative v s) :
    ∃ b t, s = b :: t ∧ isDigit b := by
  obtain @⟨whole, _, _, _, _, ⟨hne, hd⟩, _, _, _⟩ := h
  obtain ⟨b, t, rfl⟩ := List.exists_cons_of_ne_nil hne
  exact ⟨b, _, rfl, hd b List.mem_cons_self⟩

theorem Numeral.exists_cons {v : Json} {s : Bytes} (h : Numeral v s) : ∃ b t, s = b :: t ∧ (isDigit b ∨ b = 0x2D) := by
  cases h with
  | positive h =>
    obtain ⟨b, t, hs, hb⟩ := h.exists_cons
    exact ⟨b, t, hs, .inl hb⟩
  | negative => exact ⟨_, _, rfl, .inr rfl⟩

theorem Numeral.read {v : Json} {s r : Bytes} (h : Numeral v s) (hr : Ends r) :
    readNumber (s ++ r) = some (v, r) := by
  cases h with
  | positive h =>
    obtain ⟨b, t, rfl, hb⟩ := h.exists_cons
    rw [readNumber_of_ne, h.read hr]
    intro u e
    rw [(List.cons.inj e).1] at hb
    contradiction
  | negative h => rw [List.cons_append, readNumber_negative, h.read hr]

theorem exists_numeral {v : Json} {s r : Bytes} (h : readNumber s = some (v, r)) :
    ∃ t, Numeral v t ∧ s = t ++ r := by
  by_cases hs : ∃ t, s = 0x2D :: t
  · obtain ⟨t, rfl⟩ := hs
    rw [readNumber_negative] at h
    obtain ⟨u, hu, rfl⟩ := exists_unsigned h
    exact ⟨_, .negative hu, rfl⟩
  · rw [readNumber_of_ne (not_exists.1 hs)] at h
    obtain ⟨u, hu, rfl⟩ := exists_unsigned h
    exact ⟨_, .positive hu, rfl⟩

end SignIn.Json
