import SignIn.Table

/-! Keyed lists, seen through what is found under each key. -/

namespace SignIn.Table

variable {κ α : Type} [DecidableEq κ]

@[simp] theorem get?_nil (k : κ) : get? ([] : Table κ α) k = none := rfl

theorem get?_cons (e : κ × α) (t : Table κ α) (k : κ) :
    get? (e :: t) k = if e.1 = k then some e.2 else get? t k := by
  unfold get?
  split
  next h => simp [h]
  next h => simp [h]

theorem get?_insert (t : Table κ α) (k k' : κ) (a : α) :
    (t.insert k a).get? k' = if k' = k then some a else t.get? k' := by
  split
  next h => rw [h, get?_insert_self]
  next h => exact get?_insert_of_ne t a h

theorem get?_erase (t : Table κ α) (k k' : κ) :
    (t.erase k).get? k' = if k' = k then none else t.get? k' := by
  split
  next h => rw [h, get?_erase_self]
  next h => exact get?_erase_of_ne t h

theorem get?_eq_none_iff {t : Table κ α} {k : κ} : t.get? k = none ↔ k ∉ t.keys := by
  simp only [get?, keys, Option.map_eq_none_iff, List.find?_eq_none, List.mem_map, decide_eq_true_eq, not_exists,
    not_and]

theorem get?_eq_none {t : Table κ α} {k : κ} (h : k ∉ t.keys) : t.get? k = none := get?_eq_none_iff.2 h

theorem erase_of_get?_eq_none {t : Table κ α} {k : κ} (h : t.get? k = none) : t.erase k = t :=
  List.filter_eq_self.2 fun e he => decide_eq_true fun hk => get?_eq_none_iff.1 h (List.mem_map.2 ⟨e, he, hk⟩)

theorem erase_insert {t : Table κ α} {k : κ} (h : t.get? k = none) (a : α) : (t.insert k a).erase k = t := by
  have he : erase ((k, a) :: t.erase k) k = erase (t.erase k) k := List.filter_cons_of_neg (by simp)
  rw [insert, he, erase_of_get?_eq_none (get?_erase_self t k), erase_of_get?_eq_none h]

theorem mem_of_get?_eq_some {t : Table κ α} {k : κ} {a : α} (h : t.get? k = some a) : (k, a) ∈ t := by
  induction t with
  | nil => cases h
  | cons e t ih =>
    rw [get?_cons] at h
    split at h
    next hk =>
      cases h
      exact hk ▸ List.mem_cons_self
    next => exact List.mem_cons_of_mem e (ih h)

theorem get?_eq_some_iff {t : Table κ α} (ht : t.keys.Nodup) {k : κ} {a : α} :
    t.get? k = some a ↔ (k, a) ∈ t := by
  refine ⟨mem_of_get?_eq_some, fun h => ?_⟩
  induction t with
  | nil => cases h
  | cons e t ih =>
    obtain ⟨he, ht⟩ := List.nodup_cons.1 ht
    rw [get?_cons]
    rcases List.mem_cons.1 h with h | h
    · rw [← h, if_pos rfl]
    · have hk : e.1 ≠ k := fun hk => he (List.mem_map.2 ⟨(k, a), h, hk.symm⟩)
      rw [if_neg hk, ih ht h]

omit [DecidableEq κ] in
theorem nodup_keys_sublist {t t' : Table κ α} (h : t'.Sublist t) (ht : t.keys.Nodup) : t'.keys.Nodup :=
  ht.sublist (h.map _)

omit [DecidableEq κ] in
theorem nodup_keys_filter {t : Table κ α} (p : κ × α → Bool) (ht : t.keys.Nodup) : (keys (t.filter p)).Nodup :=
  nodup_keys_sublist List.filter_sublist ht

section After

variable {before after : Table κ α} {e : κ × α} {k : κ}

omit [DecidableEq κ] in
theorem mem_keys_of_after (h : k ∈ after.keys) : k ∈ keys (before ++ e :: after) := by
  rw [keys, List.map_append]
  exact List.mem_append_right _ (List.mem_cons_of_mem _ h)

omit [DecidableEq κ] in
theorem ne_of_mem_keys_after (ht : (keys (before ++ e :: after)).Nodup) (h : k ∈ after.keys) : k ≠ e.1 := by
  rw [keys, List.map_append] at ht
  rintro rfl
  exact (List.nodup_cons.1 (List.nodup_append.1 ht).2.1).1 h

end After

theorem nodup_keys_erase {t : Table κ α} (k : κ) (ht : t.keys.Nodup) : (t.erase k).keys.Nodup :=
  nodup_keys_filter _ ht

theorem nodup_keys_insert {t : Table κ α} (k : κ) (a : α) (ht : t.keys.Nodup) : (t.insert k a).keys.Nodup := by
  refine List.nodup_cons.2 ⟨?_, nodup_keys_erase k ht⟩
  exact get?_eq_none_iff.1 (get?_erase_self t k)

/-- Where no key stands twice the order does not matter. -/
theorem get?_of_perm {t t' : Table κ α} (h : t'.Perm t) (ht : t.keys.Nodup) (k : κ) : t'.get? k = t.get? k := by
  have ht' : t'.keys.Nodup := (h.map Prod.fst).nodup_iff.2 ht
  apply Option.ext
  intro a
  rw [get?_eq_some_iff ht', get?_eq_some_iff ht, h.mem_iff]

theorem get?_foldl_insert (l : List (κ × α)) (t : Table κ α) (k : κ) :
    get? (l.foldl (fun t e => t.insert e.1 e.2) t) k = (get? l.reverse k).or (t.get? k) := by
  induction l generalizing t with
  | nil => rfl
  | cons e l ih =>
    have hlast : get? (l.reverse ++ [e]) k = (get? l.reverse k).or (get? [e] k) := by
      rw [get?, List.find?_append, Option.map_or]
      rfl
    rw [List.foldl_cons, ih, List.reverse_cons, hlast, get?_insert, get?_cons, Option.or_assoc]
    congr 1
    by_cases hk : k = e.1
    · simp [hk]
    · simp [hk, Ne.symm hk]

/-- The last entry for a key counts. -/
theorem get?_ofList (l : List (κ × α)) (k : κ) : (ofList l).get? k = get? l.reverse k := by
  rw [ofList, get?_foldl_insert, get?_nil, Option.or_none]

theorem nodup_keys_ofList (l : List (κ × α)) : (ofList l).keys.Nodup := by
  have all (t : Table κ α) (ht : t.keys.Nodup) : (keys (l.foldl (fun t e => t.insert e.1 e.2) t)).Nodup := by
    induction l generalizing t with
    | nil => exact ht
    | cons e l ih => exact ih _ (nodup_keys_insert e.1 e.2 ht)
  exact all [] .nil

theorem get?_filter {t : Table κ α} (ht : t.keys.Nodup) (p : κ × α → Bool) (k : κ) :
    get? (t.filter p) k = (t.get? k).filter fun a => p (k, a) := by
  apply Option.ext
  intro a
  rw [get?_eq_some_iff (nodup_keys_filter p ht), List.mem_filter, Option.filter_eq_some_iff, get?_eq_some_iff ht]

/-- Changes what is kept under each key, or drops it. -/
def sift (f : α → Option α) (t : Table κ α) : Table κ α :=
  t.filterMap fun e => (f e.2).map fun a => (e.1, a)

omit [DecidableEq κ] in
theorem keys_sift_sublist (f : α → Option α) (t : Table κ α) : (t.sift f).keys.Sublist t.keys := by
  induction t with
  | nil => exact .slnil
  | cons e t ih =>
    cases h : f e.2 with
    | none => simpa [sift, keys, h] using ih.cons e.1
    | some a => simpa [sift, keys, h] using ih.cons_cons e.1

theorem get?_sift {t : Table κ α} (ht : t.keys.Nodup) (f : α → Option α) (k : κ) :
    (t.sift f).get? k = (t.get? k).bind f := by
  apply Option.ext
  intro a
  rw [get?_eq_some_iff (ht.sublist (keys_sift_sublist f t)), Option.bind_eq_some_iff]
  simp only [sift, List.mem_filterMap, Option.map_eq_some_iff, get?_eq_some_iff ht]
  constructor
  · rintro ⟨e, he, b, hb, h⟩
    cases h
    exact ⟨e.2, he, hb⟩
  · rintro ⟨b, hb, h⟩
    exact ⟨(k, b), hb, a, h, rfl⟩

theorem get?_alter_of_ne (f : Option α → Option α) {k k' : κ} (h : k' ≠ k) (t : Table κ α) :
    (t.alter f k).get? k' = t.get? k' := by
  induction t with
  | nil => cases hf : f none <;> simp [alter, hf, get?_cons, Ne.symm h]
  | cons e t ih =>
    rw [alter]
    split
    next hk => cases hf : f (some e.2) <;> simp [get?_cons, hk, Ne.symm h]
    next => rw [get?_cons, get?_cons, ih]

theorem get?_alter_self (f : Option α → Option α) (k : κ) {t : Table κ α} (ht : t.keys.Nodup) :
    (t.alter f k).get? k = f (t.get? k) := by
  induction t with
  | nil => cases hf : f none <;> simp [alter, hf, get?_cons]
  | cons e t ih =>
    obtain ⟨he, ht⟩ := List.nodup_cons.1 ht
    rw [alter, get?_cons]
    split
    next hk => cases hf : f (some e.2) with
      | none => simpa using get?_eq_none (hk ▸ he)
      | some b => simp [get?_cons]
    next hk => rw [get?_cons, if_neg hk, ih ht]

theorem get?_alter (f : Option α → Option α) (k k' : κ) {t : Table κ α} (ht : t.keys.Nodup) :
    (t.alter f k).get? k' = if k' = k then f (t.get? k) else t.get? k' := by
  split
  next h => rw [h, get?_alter_self f k ht]
  next h => exact get?_alter_of_ne f h t

/-- Two changes in a row, where the first leaves an entry, are one. -/
theorem alter_alter {f g : Option α → Option α} (hf : ∀ o, (f o).isSome) (k : κ) (t : Table κ α) :
    (t.alter f k).alter g k = t.alter (fun o => g (f o)) k := by
  have there (o : Option α) : ∃ b, f o = some b := Option.isSome_iff_exists.1 (hf o)
  induction t with
  | nil =>
    obtain ⟨b, hb⟩ := there none
    simp [alter, hb]
  | cons e t ih =>
    obtain ⟨b, hb⟩ := there (some e.2)
    by_cases hk : e.1 = k
    · simp [alter, hb, hk]
    · simp [alter, hk, ih]

theorem alter_eq_self {f : Option α → Option α} {k : κ} {t : Table κ α} (h : f (t.get? k) = t.get? k) :
    t.alter f k = t := by
  induction t with
  | nil =>
    rw [get?_nil] at h
    simp [alter, h]
  | cons e t ih =>
    rw [get?_cons] at h
    split at h
    next hk =>
      subst hk
      simp [alter, h]
    next hk => simp [alter, hk, ih h]

theorem mem_keys_alter {f : Option α → Option α} {k k' : κ} {t : Table κ α} (h : k' ∈ (t.alter f k).keys) :
    k' = k ∨ k' ∈ t.keys := by
  by_cases hk : k' = k
  · exact .inl hk
  · refine .inr (Decidable.byContradiction fun hn => ?_)
    have hg := get?_alter_of_ne f hk t
    rw [get?_eq_none hn] at hg
    exact get?_eq_none_iff.1 hg h

theorem nodup_keys_alter (f : Option α → Option α) (k : κ) {t : Table κ α} (ht : t.keys.Nodup) :
    (t.alter f k).keys.Nodup := by
  induction t with
  | nil => cases hf : f none <;> simp [alter, hf, keys]
  | cons e t ih =>
    obtain ⟨he, ht⟩ := List.nodup_cons.1 ht
    rw [alter]
    split
    next hk => cases hf : f (some e.2) with
      | none => exact ht
      | some b => exact List.nodup_cons.2 ⟨hk ▸ he, ht⟩
    next hk =>
      refine List.nodup_cons.2 ⟨fun h => ?_, ih ht⟩
      rcases mem_keys_alter h with h | h
      · exact hk h
      · exact he h

end SignIn.Table
