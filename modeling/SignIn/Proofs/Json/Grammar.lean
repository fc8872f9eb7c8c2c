import SignIn.Proofs.Json.Spelling

/-! The grammar of JSON texts. The reader accepts just the texts of the grammar, and each as the value it spells. -/

namespace SignIn.Json

mutual

/-- The value is spelled so, with no blanks around it. -/
inductive Spells : Json → Bytes → Prop where
  | null : Spells .null [0x6E, 0x75, 0x6C, 0x6C]
  | yes : Spells (.bool true) [0x74, 0x72, 0x75, 0x65]
  | no : Spells (.bool false) [0x66, 0x61, 0x6C, 0x73, 0x65]
  | numeral {v : Json} {s : Bytes} (h : Numeral v s) : Spells v s
  | text {t : Pieces} {s : Bytes} (h : Spelling t s) : Spells (.text t) (0x22 :: (s ++ [0x22]))
  | emptyArray {s : Bytes} (h : Blanks s) : Spells (.array []) (0x5B :: (s ++ [0x5D]))
  | array {l : List Json} {s : Bytes} (h : Elements l s) : Spells (.array l) (0x5B :: (s ++ [0x5D]))
  | emptyObject {s : Bytes} (h : Blanks s) : Spells (.object []) (0x7B :: (s ++ [0x7D]))
  | object {l : List (Pieces × Json)} {s : Bytes} (h : Members l s) : Spells (.object l) (0x7B :: (s ++ [0x7D]))

/-- A value between blanks. -/
inductive Document : Json → Bytes → Prop where
  | mk {v : Json} {b s c : Bytes} (hb : Blanks b) (h : Spells v s) (hc : Blanks c) : Document v (b ++ (s ++ c))

inductive Elements : List Json → Bytes → Prop where
  | one {v : Json} {s : Bytes} (h : Document v s) : Elements [v] s
  | cons {v : Json} {l : List Json} {s t : Bytes} (h : Document v s) (hl : Elements l t) :
    Elements (v :: l) (s ++ 0x2C :: t)

inductive Member : Pieces × Json → Bytes → Prop where
  | mk {k : Pieces} {v : Json} {b s c t : Bytes} (hb : Blanks b) (hk : Spelling k s) (hc : Blanks c)
    (hv : Document v t) : Member (k, v) (b ++ 0x22 :: (s ++ 0x22 :: (c ++ 0x3A :: t)))

inductive Members : List (Pieces × Json) → Bytes → Prop where
  | one {m : Pieces × Json} {s : Bytes} (h : Member m s) : Members [m] s
  | cons {m : Pieces × Json} {l : List (Pieces × Json)} {s t : Bytes} (h : Member m s) (hl : Members l t) :
    Members (m :: l) (s ++ 0x2C :: t)

end

/-! ### Blanks in front make no difference -/

theorem readValue_skipBlanks (fuel : Nat) (s : Bytes) : readValue fuel (skipBlanks s) = readValue fuel s := by
  cases fuel with
  | zero => rfl
  | succ fuel => rw [readValue, readValue, skipBlanks_skipBlanks]

theorem readElements_skipBlanks (fuel : Nat) (s : Bytes) : readElements fuel (skipBlanks s) = readElements fuel s := by
  cases fuel with
  | zero => rfl
  | succ fuel => rw [readElements, readElements, readValue_skipBlanks]

theorem readMembers_skipBlanks (fuel : Nat) (s : Bytes) : readMembers fuel (skipBlanks s) = readMembers fuel s := by
  cases fuel with
  | zero => rfl
  | succ fuel => rw [readMembers, readMembers, skipBlanks_skipBlanks]

/-! ### What is read is spelled so

The readers call each other with less fuel each time, so the induction is on the fuel. -/

theorem Blanks.document {v : Json} {b s t r : Bytes} (hb : Blanks b) (hv : Spells v t) (hs : s = b ++ (t ++ r)) :
    ∃ u, Document v u ∧ s = u ++ skipBlanks r := by
  obtain ⟨c, hc, hr⟩ := exists_blanks r
  exact ⟨_, .mk hb hv hc, by rw [hs, List.append_assoc, List.append_assoc, ← hr]⟩

mutual

theorem exists_spells {fuel : Nat} {s r : Bytes} {v : Json} (h : readValue fuel s = some (v, r)) :
    ∃ b t, Blanks b ∧ Spells v t ∧ s = b ++ (t ++ r) := by
  match fuel with
  | 0 => contradiction
  | fuel + 1 =>
    obtain ⟨b, hb, hs⟩ := exists_blanks s
    suffices hv : ∃ t, Spells v t ∧ skipBlanks s = t ++ r by
      obtain ⟨t, hv, ht⟩ := hv
      exact ⟨b, t, hb, hv, ht ▸ hs⟩
    rw [readValue] at h
    split at h
    next e => cases h; exact ⟨_, .null, e⟩
    next e => cases h; exact ⟨_, .yes, e⟩
    next e => cases h; exact ⟨_, .no, e⟩
    next t e =>
      obtain ⟨⟨u, _⟩, hu, hp⟩ := Option.map_eq_some_iff.1 h
      cases hp
      obtain ⟨w, hw, rfl⟩ := exists_spelling hu
      exact ⟨_, .text hw, by rw [e]; simp⟩
    next t e =>
      obtain ⟨c, hc, ht⟩ := exists_blanks t
      split at h
      next e' =>
        cases h
        exact ⟨_, .emptyArray hc, by rw [e, ht, e']; simp⟩
      next =>
        obtain ⟨⟨l, _⟩, hl, hp⟩ := Option.map_eq_some_iff.1 h
        cases hp
        obtain ⟨w, hw, rfl⟩ := exists_elements (readElements_skipBlanks fuel t ▸ hl)
        exact ⟨_, .array hw, by rw [e]; simp⟩
    next t e =>
      obtain ⟨c, hc, ht⟩ := exists_blanks t
      split at h
      next e' =>
        cases h
        exact ⟨_, .emptyObject hc, by rw [e, ht, e']; simp⟩
      next =>
        obtain ⟨⟨l, _⟩, hl, hp⟩ := Option.map_eq_some_iff.1 h
        cases hp
        obtain ⟨w, hw, rfl⟩ := exists_members (readMembers_skipBlanks fuel t ▸ hl)
        exact ⟨_, .object hw, by rw [e]; simp⟩
    next =>
      obtain ⟨t, ht, e⟩ := exists_numeral h
      exact ⟨t, .numeral ht, e⟩

theorem exists_elements {fuel : Nat} {s r : Bytes} {l : List Json} (h : readElements fuel s = some (l, r)) :
    ∃ t, Elements l t ∧ s = t ++ 0x5D :: r := by
  match fuel with
  | 0 => contradiction
  | fuel + 1 =>
    simp only [readElements, Option.bind_eq_bind, Option.bind_eq_some_iff] at h
    obtain ⟨⟨v, t⟩, hv, h⟩ := h
    obtain ⟨b, w, hb, hw, hs⟩ := exists_spells hv
    obtain ⟨u, hu, hs⟩ := hb.document hw hs
    split at h
    next e =>
      cases h
      exact ⟨u, .one hu, by rw [hs, e]⟩
    next t e =>
      obtain ⟨⟨l, _⟩, hl, hp⟩ := Option.map_eq_some_iff.1 h
      cases hp
      obtain ⟨w, hw, rfl⟩ := exists_elements hl
      exact ⟨_, .cons hu hw, by rw [hs, e]; simp⟩
    next => contradiction

theorem exists_members {fuel : Nat} {s r : Bytes} {l : List (Pieces × Json)}
    (h : readMembers fuel s = some (l, r)) : ∃ t, Members l t ∧ s = t ++ 0x7D :: r := by
  match fuel with
  | 0 => contradiction
  | fuel + 1 =>
    obtain ⟨b, hb, hs⟩ := exists_blanks s
    simp only [readMembers, Option.bind_eq_bind] at h
    split at h
    next t hquote =>
      simp only [Option.bind_eq_some_iff] at h
      obtain ⟨⟨k, u⟩, hk, h⟩ := h
      obtain ⟨x, hx, rfl⟩ := exists_spelling hk
      obtain ⟨c, hc, hu⟩ := exists_blanks u
      split at h
      next y hcolon =>
        simp only [Option.bind_eq_some_iff] at h
        obtain ⟨⟨v, z⟩, hv, h⟩ := h
        obtain ⟨a, w, ha, hw, hy⟩ := exists_spells hv
        obtain ⟨d, hd, hy⟩ := ha.document hw hy
        have hm := Member.mk hb hx hc hd
        split at h
        next hbrace =>
          cases h
          exact ⟨_, .one hm, by rw [hs, hquote, hu, hcolon, hy, hbrace]; simp⟩
        next hcomma =>
          obtain ⟨⟨l, _⟩, hl, hp⟩ := Option.map_eq_some_iff.1 h
          cases hp
          obtain ⟨n, hn, rfl⟩ := exists_members hl
          exact ⟨_, .cons hm hn, by rw [hs, hquote, hu, hcolon, hy, hcomma]; simp⟩
        next => contradiction
      next => contradiction
    next => contradiction

end

/-! ### What is spelled so is read

Here the induction is on the spelling. Of the fuel it takes more than the spelling is long. A number has no end of its
own, so what follows a value must not go on with one. -/

theorem readValue_append {b : Bytes} (hb : Blanks b) (fuel : Nat) (s : Bytes) :
    readValue fuel (b ++ s) = readValue fuel s := by
  rw [← readValue_skipBlanks, skipBlanks_append hb, readValue_skipBlanks]

theorem readValue_numeral {v : Json} {s r : Bytes} (h : Numeral v s) (hr : Ends r) (fuel : Nat) :
    readValue (fuel + 1) (s ++ r) = some (v, r) := by
  rw [← h.read hr]
  obtain ⟨b, t, rfl, hb⟩ := h.exists_cons
  have hskip : skipBlanks (b :: (t ++ r)) = b :: (t ++ r) := by
    rw [skipBlanks, if_neg]
    rintro (rfl | rfl | rfl | rfl) <;> simp [isDigit] at hb
  rw [List.cons_append, readValue, hskip]
  split <;> simp_all [isDigit]

theorem readElements_bracket (fuel : Nat) (r : Bytes) : readElements fuel (0x5D :: r) = none := by
  match fuel with
  | 0 => rfl
  | 1 => rfl
  | _ + 2 => rfl

theorem readMembers_brace (fuel : Nat) (r : Bytes) : readMembers fuel (0x7D :: r) = none := by
  cases fuel with
  | zero => rfl
  | succ => rfl

theorem readValue_array {fuel : Nat} {l : List Json} {s r : Bytes} (h : readElements fuel s = some (l, r)) :
    readValue (fuel + 1) (0x5B :: s) = some (.array l, r) := by
  have hskip : skipBlanks (0x5B :: s) = 0x5B :: s := rfl
  rw [← readElements_skipBlanks] at h
  rw [readValue, hskip]
  simp only
  split
  next e =>
    rw [e, readElements_bracket] at h
    contradiction
  next => rw [h, Option.map_some]

theorem readValue_object {fuel : Nat} {l : List (Pieces × Json)} {s r : Bytes}
    (h : readMembers fuel s = some (l, r)) : readValue (fuel + 1) (0x7B :: s) = some (.object l, r) := by
  have hskip : skipBlanks (0x7B :: s) = 0x7B :: s := rfl
  rw [← readMembers_skipBlanks] at h
  rw [readValue, hskip]
  simp only
  split
  next e =>
    rw [e, readMembers_brace] at h
    contradiction
  next => rw [h, Option.map_some]

section

variable {b s c r t u : Bytes} {k : Pieces} {v : Json} {fuel : Nat} (hb : Blanks b) (hk : Spelling k s) (hc : Blanks c)
  (hv : readValue fuel r = some (v, t))

include hb hk hc hv

theorem readMembers_one (ht : skipBlanks t = 0x7D :: u) :
    readMembers (fuel + 1) (b ++ 0x22 :: (s ++ 0x22 :: (c ++ 0x3A :: r))) = some ([(k, v)], u) := by
  rw [readMembers, skipBlanks_append hb]
  simp [skipBlanks, hk.read, skipBlanks_append hc, hv, ht]

theorem readMembers_cons (ht : skipBlanks t = 0x2C :: u) {l : List (Pieces × Json)} {w : Bytes}
    (hl : readMembers fuel u = some (l, w)) :
    readMembers (fuel + 1) (b ++ 0x22 :: (s ++ 0x22 :: (c ++ 0x3A :: r))) = some ((k, v) :: l, w) := by
  rw [readMembers, skipBlanks_append hb]
  simp [skipBlanks, hk.read, skipBlanks_append hc, hv, ht, hl]

end

theorem Ends.comma (r : Bytes) : Ends (0x2C :: r) := .cons (by decide) r

theorem Ends.bracket (r : Bytes) : Ends (0x5D :: r) := .cons (by decide) r

theorem Ends.brace (r : Bytes) : Ends (0x7D :: r) := .cons (by decide) r

mutual

theorem Spells.read {v : Json} {s : Bytes} (h : Spells v s) (fuel : Nat) (hf : s.length < fuel) {r : Bytes}
    (hr : Ends r) : readValue fuel (s ++ r) = some (v, r) := by
  obtain ⟨fuel, rfl⟩ : ∃ n, fuel = n + 1 := ⟨fuel - 1, by omega⟩
  match h with
  | .null => rfl
  | .yes => rfl
  | .no => rfl
  | .numeral h => exact readValue_numeral h hr fuel
  | .text h =>
    rw [List.cons_append, List.append_assoc, readValue]
    simp [skipBlanks, h.read]
  | .emptyArray h =>
    rw [List.cons_append, List.append_assoc, readValue]
    simp [skipBlanks, skipBlanks_append h]
  | .array h =>
    rw [List.cons_append, List.append_assoc]
    exact readValue_array (Elements.read h fuel (by simp at hf; omega) r)
  | .emptyObject h =>
    rw [List.cons_append, List.append_assoc, readValue]
    simp [skipBlanks, skipBlanks_append h]
  | .object h =>
    rw [List.cons_append, List.append_assoc]
    exact readValue_object (Members.read h fuel (by simp at hf; omega) r)

/-- A document is read where its value is, and blanks are left. -/
theorem Document.read {v : Json} {s : Bytes} (h : Document v s) (fuel : Nat) (hf : s.length < fuel) {r : Bytes}
    (hr : Ends r) : ∃ t, readValue fuel (s ++ r) = some (v, t) ∧ skipBlanks t = skipBlanks r := by
  match h with
  | @Document.mk _ b s c hb h hc =>
    simp only [List.length_append] at hf
    refine ⟨c ++ r, ?_, skipBlanks_append hc r⟩
    rw [List.append_assoc, List.append_assoc, readValue_append hb, Spells.read h fuel (by omega) (.blanks hc hr)]

theorem Elements.read {l : List Json} {s : Bytes} (h : Elements l s) (fuel : Nat) (hf : s.length + 1 < fuel)
    (r : Bytes) : readElements fuel (s ++ 0x5D :: r) = some (l, r) := by
  obtain ⟨fuel, rfl⟩ : ∃ n, fuel = n + 1 := ⟨fuel - 1, by omega⟩
  match h with
  | .one h =>
    obtain ⟨t, hv, ht⟩ := Document.read h fuel (by omega) (.bracket r)
    simp [readElements, hv, ht, skipBlanks]
  | @Elements.cons _ _ _ t h hl =>
    rw [List.length_append, List.length_cons] at hf
    rw [List.append_assoc, List.cons_append]
    obtain ⟨u, hv, hu⟩ := Document.read h fuel (by omega) (.comma (t ++ 0x5D :: r))
    simp [readElements, hv, hu, skipBlanks, Elements.read hl fuel (by omega) r]

theorem Members.read {l : List (Pieces × Json)} {s : Bytes} (h : Members l s) (fuel : Nat)
    (hf : s.length + 1 < fuel) (r : Bytes) : readMembers fuel (s ++ 0x7D :: r) = some (l, r) := by
  obtain ⟨fuel, rfl⟩ : ∃ n, fuel = n + 1 := ⟨fuel - 1, by omega⟩
  match h with
  | .one (.mk hb hk hc h) =>
    simp only [List.append_assoc, List.cons_append, List.length_append, List.length_cons] at hf ⊢
    obtain ⟨t, hv, ht⟩ := Document.read h fuel (by omega) (.brace r)
    exact readMembers_one hb hk hc hv ht
  | @Members.cons _ _ _ t (.mk hb hk hc h) hl =>
    simp only [List.append_assoc, List.cons_append, List.length_append, List.length_cons] at hf ⊢
    obtain ⟨u, hv, hu⟩ := Document.read h fuel (by omega) (.comma (t ++ 0x7D :: r))
    exact readMembers_cons hb hk hc hv hu (Members.read hl fuel (by omega) r)

end

/-- The grammar says which texts are read, and as which values. -/
theorem ofBytes?_eq_some_iff {s : Bytes} {v : Json} : ofBytes? s = some v ↔ Document v s := by
  simp only [ofBytes?, Option.bind_eq_bind, Option.bind_eq_some_iff]
  constructor
  · rintro ⟨⟨v, r⟩, hv, h⟩
    obtain ⟨b, t, hb, ht, hs⟩ := exists_spells hv
    obtain ⟨u, hu, rfl⟩ := hb.document ht hs
    split at h
    next hr =>
      cases h
      rwa [hr, List.append_nil]
    next => contradiction
  · intro h
    obtain ⟨t, hv, ht⟩ := h.read (2 * s.length + 2) (by omega) .nil
    rw [List.append_nil] at hv
    exact ⟨(v, t), hv, if_pos ht⟩

end SignIn.Json
