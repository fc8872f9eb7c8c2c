import SignIn.Json

/-! What an object that is read as a record holds under each of the names. -/

namespace SignIn.Json

/-- The values of the members of that name, in order. -/
def valuesOf (name : String) (l : List (Pieces × Json)) : List Json :=
  (l.filter fun m => m.1.text? = some name).map (·.2)

theorem valuesOf_eq_of_mapM {l : List (Pieces × Json)} {keyed : List (String × Json)}
    (h : (l.mapM fun m => m.1.text?.map fun k => (k, m.2)) = some keyed) (name : String) :
    valuesOf name l = (keyed.filter (·.1 = name)).map (·.2) := by
  induction l generalizing keyed with
  | nil =>
    obtain rfl : [] = keyed := Option.some.inj h
    rfl
  | cons m r ih =>
    simp only [List.mapM_cons, Option.bind_eq_bind, Option.bind_eq_some_iff, Option.map_eq_some_iff,
      Option.pure_def, Option.some.injEq] at h
    obtain ⟨-, ⟨k, hk, rfl⟩, ks, hks, rfl⟩ := h
    have := ih hks
    unfold valuesOf at this ⊢
    by_cases hn : k = name
    · simp [hk, hn, this]
    · simp [hk, hn, this]

theorem head?_valuesOf_of_mapM {l : List (Pieces × Json)} {keyed : List (String × Json)}
    (h : (l.mapM fun m => m.1.text?.map fun k => (k, m.2)) = some keyed) (name : String) :
    (valuesOf name l).head? = (keyed.find? (·.1 = name)).map (·.2) := by
  rw [valuesOf_eq_of_mapM h, List.head?_map, List.head?_filter]

theorem length_valuesOf_of_mapM {l : List (Pieces × Json)} {keyed : List (String × Json)}
    (h : (l.mapM fun m => m.1.text?.map fun k => (k, m.2)) = some keyed) (name : String) :
    (valuesOf name l).length = (keyed.map (·.1)).count name := by
  rw [valuesOf_eq_of_mapM h, List.length_map, List.count, List.countP_map, List.countP_eq_length_filter]
  rfl

/-- All names of the object are texts. -/
def NamesLegible (l : List (Pieces × Json)) : Prop := ∀ m ∈ l, m.1.text?.isSome

theorem namesLegible_iff {l : List (Pieces × Json)} :
    NamesLegible l ↔ ∃ keyed, (l.mapM fun m => m.1.text?.map fun k => (k, m.2)) = some keyed := by
  induction l with
  | nil => simp [NamesLegible]
  | cons m r ih =>
    rw [NamesLegible, List.forall_mem_cons, ← NamesLegible, ih, Option.isSome_iff_exists]
    simp only [List.mapM_cons, Option.bind_eq_bind, Option.bind_eq_some_iff, Option.map_eq_some_iff, Option.pure_def,
      Option.some.injEq]
    constructor
    · rintro ⟨⟨k, hk⟩, ks, hks⟩
      exact ⟨_, _, ⟨k, hk, rfl⟩, ks, hks, rfl⟩
    · rintro ⟨-, -, ⟨k, hk, -⟩, ks, hks, -⟩
      exact ⟨⟨k, hk⟩, ks, hks⟩

/-- There is one member of that name, and it is read as `a`. -/
def Tells {α : Type} (l : List (Pieces × Json)) (name : String) (read : Json → Option α) (a : α) : Prop :=
  ∃ v, valuesOf name l = [v] ∧ read v = some a

theorem tells_of_head? {α : Type} {l : List (Pieces × Json)} {name : String} {read : Json → Option α} {v : Json}
    {a : α} (hv : some v = (valuesOf name l).head?) (h1 : (valuesOf name l).length ≤ 1) (ha : read v = some a) :
    Tells l name read a := by
  unfold Tells
  match valuesOf name l, hv, h1 with
  | [w], hv, _ =>
    obtain rfl : v = w := Option.some.inj hv
    exact ⟨v, rfl, ha⟩

theorem nodup_filter_mem_iff {α : Type} [DecidableEq α] {l names : List α} :
    (l.filter (· ∈ names)).Nodup ↔ ∀ n ∈ names, l.count n ≤ 1 := by
  rw [List.nodup_iff_count]
  constructor
  · intro h n hn
    have hc := h n
    rwa [List.count_filter (by simpa using hn)] at hc
  · intro h n
    by_cases hn : n ∈ names
    · rw [List.count_filter (by simpa using hn)]
      exact h n hn
    · rw [List.count_eq_zero.2 (by simp [hn])]
      exact Nat.zero_le 1

/-- An object is read as a record if its names are texts and none of the record's names stands there twice. -/
theorem record?_object_eq_some_iff {names : List String} {l : List (Pieces × Json)} {values : List (Option Json)} :
    record? names (.object l) = some values ↔ NamesLegible l ∧
      values = names.map (fun n => (valuesOf n l).head?) ∧ ∀ n ∈ names, (valuesOf n l).length ≤ 1 := by
  simp only [record?, Option.bind_eq_bind, Option.bind_eq_some_iff, namesLegible_iff, nodup_filter_mem_iff]
  constructor
  · rintro ⟨keyed, hk, h⟩
    simp only [← head?_valuesOf_of_mapM hk, ← length_valuesOf_of_mapM hk] at h
    split at h
    next hd => exact ⟨⟨keyed, hk⟩, (Option.some.inj h).symm, hd⟩
    next => contradiction
  · rintro ⟨⟨keyed, hk⟩, rfl, hd⟩
    refine ⟨keyed, hk, ?_⟩
    simp only [← head?_valuesOf_of_mapM hk, ← length_valuesOf_of_mapM hk]
    exact if_pos hd

/-- A record has under each name what the object has first, and the object has nothing more under it. -/
theorem record?_object {names : List String} {l : List (Pieces × Json)} {values : List (Option Json)}
    (h : record? names (.object l) = some values) :
    values = names.map (fun n => (valuesOf n l).head?) ∧ ∀ n ∈ names, (valuesOf n l).length ≤ 1 :=
  (record?_object_eq_some_iff.1 h).2

end SignIn.Json
