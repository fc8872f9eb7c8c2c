import SignIn.Text.Blank

/-! A trimmed text has nothing left to trim, and blanks around a text are trimmed away. -/

namespace SignIn.Text

theorem trimStart_eq_self {l : List Char} (h : ∀ c, l.head? = some c → isBlank c = false) : trimStart l = l := by
  cases l with
  | nil => rfl
  | cons c l => exact List.dropWhile_cons_of_neg (Bool.eq_false_iff.1 (h c rfl))

theorem head?_trimStart {l : List Char} {c : Char} (h : (trimStart l).head? = some c) : isBlank c = false := by
  have hn := List.head?_dropWhile_not isBlank l
  rw [show l.dropWhile isBlank = trimStart l from rfl, h] at hn
  exact hn

/-- What trimming the end leaves is the front of the text. -/
theorem head?_trimEnd {l : List Char} {c : Char} (h : (trimEnd l).head? = some c) : l.head? = some c := by
  have hp : trimEnd l <+: l := List.reverse_suffix.1 (by simpa [trimEnd] using List.dropWhile_suffix isBlank)
  obtain ⟨t, ht⟩ := hp
  rw [← ht, List.head?_append, h]
  rfl

theorem trimEnd_trimEnd (l : List Char) : trimEnd (trimEnd l) = trimEnd l := by
  simp only [trimEnd, List.reverse_reverse]
  exact congrArg _ (trimStart_eq_self fun _ => head?_trimStart)

theorem trim_trim (s : String) : trim (trim s) = trim s := by
  simp only [trim, String.toList_ofList]
  rw [trimStart_eq_self fun c hc => head?_trimStart (head?_trimEnd hc), trimEnd_trimEnd]

theorem trim_eq_self {s : String} (h : ∀ c ∈ s.toList, isBlank c = false) : trim s = s := by
  rw [trim, trimStart_eq_self fun c hc => h c (List.mem_of_mem_head? hc), trimEnd]
  have he : s.toList.reverse.dropWhile isBlank = s.toList.reverse :=
    trimStart_eq_self fun c hc => h c (List.mem_reverse.1 (List.mem_of_mem_head? hc))
  rw [he, List.reverse_reverse, String.ofList_toList]

theorem filled?_eq_some_iff {s t : String} : filled? s = some t ↔ t = trim s ∧ t ≠ "" := by
  unfold filled?
  split
  next h =>
    simp only [reduceCtorEq, false_iff, not_and, Decidable.not_not]
    exact fun ht => ht.trans h
  next h =>
    simp only [Option.some.injEq, eq_comm (a := trim s)]
    exact ⟨fun ht => ⟨ht, ht ▸ h⟩, And.left⟩

theorem filled?_of_filled? {s t : String} (h : filled? s = some t) : filled? t = some t := by
  obtain ⟨rfl, hn⟩ := filled?_eq_some_iff.1 h
  exact filled?_eq_some_iff.2 ⟨(trim_trim s).symm, hn⟩

theorem trimStart_append {b : List Char} (h : ∀ c ∈ b, isBlank c) (l : List Char) :
    trimStart (b ++ l) = trimStart l := List.dropWhile_append_of_pos h

theorem trimStart_eq_nil {b : List Char} (h : ∀ c ∈ b, isBlank c) : trimStart b = [] := by
  have hb := trimStart_append h []
  rwa [List.append_nil] at hb

theorem trimEnd_append {b : List Char} (h : ∀ c ∈ b, isBlank c) (l : List Char) : trimEnd (l ++ b) = trimEnd l := by
  have hr : ∀ c ∈ b.reverse, isBlank c := fun c hc => h c (List.mem_reverse.1 hc)
  rw [trimEnd, List.reverse_append, List.dropWhile_append_of_pos hr, trimEnd]

/-- The text `s` with blanks before and after it. -/
def Spaced (s t : String) : Prop :=
  ∃ before after : String, (∀ c ∈ before.toList, isBlank c) ∧ (∀ c ∈ after.toList, isBlank c) ∧
    t = before ++ s ++ after

/-- A text that may be missing. In its place there may be blanks. -/
inductive MaybeSpaced : Option String → Option String → Prop
  | none : MaybeSpaced none none
  | blank {t : String} : (∀ c ∈ t.toList, isBlank c) → MaybeSpaced none (some t)
  | some {s t : String} : Spaced s t → MaybeSpaced (some s) (some t)

theorem trim_of_spaced {s t : String} (h : Spaced s t) : trim t = trim s := by
  obtain ⟨before, after, hb, ha, rfl⟩ := h
  have hends : trimEnd (trimStart (s.toList ++ after.toList)) = trimEnd (trimStart s.toList) := by
    have happ : trimStart (s.toList ++ after.toList) =
        if (trimStart s.toList).isEmpty then trimStart after.toList else trimStart s.toList ++ after.toList :=
      List.dropWhile_append
    rw [happ]
    split
    -- what comes after a blank text goes with it
    next hs => rw [trimStart_eq_nil ha, List.isEmpty_iff.1 hs]
    next => exact trimEnd_append ha _
  simp only [trim, String.toList_append, List.append_assoc]
  rw [trimStart_append hb, hends]

theorem filled?_of_spaced {s t : String} (h : Spaced s t) : filled? t = filled? s := by
  rw [filled?, filled?, trim_of_spaced h]

theorem filled?_of_blank {t : String} (h : ∀ c ∈ t.toList, isBlank c) : filled? t = none := by
  have ht : trim t = "" := by
    rw [trim, trimStart_eq_nil h]
    rfl
  rw [filled?, if_pos ht]

theorem bind_filled?_of_maybeSpaced {o o' : Option String} (h : MaybeSpaced o o') :
    o'.bind filled? = o.bind filled? := by
  cases h with
  | none => rfl
  | blank h => rw [Option.bind_some, Option.bind_none, filled?_of_blank h]
  | some h => rw [Option.bind_some, Option.bind_some, filled?_of_spaced h]

end SignIn.Text
