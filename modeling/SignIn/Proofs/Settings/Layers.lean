import Mathlib.Data.List.TakeWhile
import SignIn.Proofs.Settings.Places
import SignIn.Settings.File

/-! Sources of settings, laid over one another: what stands at a place afterwards. -/

namespace SignIn

namespace SettingsPath

theorem ofText_of_plain {s : String} (hs : s.toList ≠ []) (h : ∀ c ∈ s.toList, isNameChar c) : ofText s = [.part s] := by
  have htake : s.toList.takeWhile isNameChar = s.toList := List.takeWhile_eq_self_iff.2 h
  have hdrop : s.toList.dropWhile isNameChar = [] := List.dropWhile_eq_nil_iff.2 h
  simp [ofText, name?, htake, hdrop, hs, steps?]

/-- A path starts with a name, which is a path of its own. -/
theorem exists_part_ofText (s : String) : ∃ k r, ofText s = .part k :: r ∧ ofText k = [.part k] := by
  cases hn : name? s.toList with
  | none =>
    have hs : ofText s = [.part s] := by simp [ofText, hn]
    exact ⟨s, [], hs, hs⟩
  | some n =>
    obtain ⟨k, r⟩ := n
    have hk : ofText k = [.part k] := by
      simp only [name?, Option.ite_none_left_eq_some, Option.some.injEq, Prod.mk.injEq] at hn
      obtain ⟨hne, rfl, -⟩ := hn
      refine ofText_of_plain (by rwa [String.toList_ofList]) fun c hc => ?_
      rw [String.toList_ofList] at hc
      exact List.mem_takeWhile_imp hc
    cases hr : steps? r.length r with
    | none =>
      have hs : ofText s = [.part s] := by simp [ofText, hn, hr]
      exact ⟨s, [], hs, hs⟩
    | some l => exact ⟨k, l, by simp [ofText, hn, hr], hk⟩

theorem ofText_ne_nil (s : String) : ofText s ≠ [] := by
  obtain ⟨k, r, h, -⟩ := exists_part_ofText s
  rw [h]
  exact List.cons_ne_nil _ _

end SettingsPath

namespace SettingsTree

variable {t v : SettingsTree} {k : String} {p : List String} {l : List (String × SettingsTree)}

@[simp] theorem layer_cons (k : String) (v : SettingsTree) (l : List (String × SettingsTree)) (t : SettingsTree) :
    t.layer ((k, v) :: l) = (place v (.ofText k) t).layer l := rfl

theorem layer_append (l l' : List (String × SettingsTree)) (t : SettingsTree) :
    t.layer (l ++ l') = (t.layer l).layer l' := List.foldl_append

/-- Names that are no longer paths. -/
def Plain (l : Table String SettingsTree) : Prop := ∀ k ∈ l.keys, SettingsPath.ofText k = [.part k]

theorem layer_of_plain (h : Plain l) (t : SettingsTree) : t.layer l = layAll l t := by
  induction l generalizing t with
  | nil => rfl
  | cons e l ih =>
    obtain ⟨k, v⟩ := e
    rw [layer_cons, layAll, h k List.mem_cons_self, place]
    exact ih (fun k' hk => h k' (List.mem_cons_of_mem k hk)) _

theorem exists_layer (ht : ∃ m o, t = .branch m o ∧ Plain m) (l : List (String × SettingsTree)) :
    ∃ m o, t.layer l = .branch m o ∧ Plain m := by
  induction l generalizing t with
  | nil => exact ht
  | cons e l ih =>
    obtain ⟨m, o, rfl, hm⟩ := ht
    obtain ⟨k, r, hr, hk⟩ := SettingsPath.exists_part_ofText e.1
    obtain ⟨u, hu⟩ := exists_place_part e.2 k r (.branch m o)
    refine ih ⟨Table.insert m k u, o, by dsimp only; rw [hr, hu, set], fun k' hk' => ?_⟩
    obtain rfl | hk' := List.mem_cons.1 hk'
    · exact hk
    · obtain ⟨e', he', rfl⟩ := List.mem_map.1 hk'
      exact hm e'.1 (List.mem_map_of_mem (List.mem_filter.1 he').1)

theorem keyed_layer (ht : t.Keyed p) (l : List (String × SettingsTree)) : (t.layer l).Keyed p := by
  induction l generalizing t with
  | nil => exact ht
  | cons e l ih => exact ih (keyed_place e.2 (SettingsPath.ofText_ne_nil e.1) ht)

theorem value?_layer_of_diverges (h : ∀ k ∈ Table.keys l, (SettingsPath.ofText k).Diverges p) (t : SettingsTree) :
    (t.layer l).value? p = t.value? p := by
  induction l generalizing t with
  | nil => rfl
  | cons e l ih =>
    obtain ⟨k, v⟩ := e
    rw [layer_cons, ih fun k' hk => h k' (List.mem_cons_of_mem k hk),
      value?_place_of_diverges v (h k List.mem_cons_self)]

theorem open_layer_of_diverges (ht : t.Open p) (h : ∀ k ∈ Table.keys l, (SettingsPath.ofText k).Diverges p) :
    (t.layer l).Open p := by
  induction l generalizing t with
  | nil => exact ht
  | cons e l ih =>
    refine ih ?_ fun k' hk => h k' (List.mem_cons_of_mem e.1 hk)
    exact open_place_of_diverges e.2 (o := some t) (fun u hu => Option.some.inj hu ▸ ht) (h e.1 List.mem_cons_self)

theorem open_value?_layer_self (hp : SettingsPath.ofText k = [.part k])
    (hd : ∀ k' ∈ Table.keys l, k' = k ∨ (SettingsPath.ofText k').Diverges (k :: p))
    (hk : (branch l none).Keyed (k :: p)) (ho : (branch l none).Open (k :: p)) (ht : t.Open (k :: p)) :
    (t.layer l).Open (k :: p) ∧
      (t.layer l).value? (k :: p) = pick ((branch l none).value? (k :: p)) (t.value? (k :: p)) := by
  induction l generalizing t with
  | nil => exact ⟨ht, rfl⟩
  | cons e l ih =>
    obtain ⟨k', v⟩ := e
    obtain ⟨hnot, hl⟩ := List.nodup_cons.1 hk.1
    rw [layer_cons]
    by_cases hkk : k' = k
    · -- Names are distinct, so that all that follows is elsewhere.
      subst hkk
      have hv : (branch ((k', v) :: l) none).get? k' = some v := by simp [get?, parts, Table.get?]
      have hvalue : (branch ((k', v) :: l) none).value? (k' :: p) = v.value? p := by
        rw [value?, hv, Option.bind_some]
      have hrest : ∀ k ∈ Table.keys l, (SettingsPath.ofText k).Diverges (k' :: p) := fun k hk =>
        (hd k (List.mem_cons_of_mem k' hk)).resolve_left fun h => hnot (h ▸ hk)
      rw [hp, value?_layer_of_diverges hrest, value?_place_part (hk.2 v hv) (ho.2 v hv), hvalue]
      exact ⟨open_layer_of_diverges (open_place_part (hk.2 v hv) (ho.2 v hv) ht) hrest, rfl⟩
    · have hget : (branch ((k', v) :: l) none).get? k = (branch l none).get? k := by
        simp [get?, parts, Table.get?, hkk]
      have hvalue : (branch ((k', v) :: l) none).value? (k :: p) = (branch l none).value? (k :: p) := by
        rw [value?, hget, value?]
      have hd' : (SettingsPath.ofText k').Diverges (k :: p) := (hd k' List.mem_cons_self).resolve_left hkk
      rw [← value?_place_of_diverges v hd' t, hvalue]
      exact ih (fun k'' hk'' => hd k'' (List.mem_cons_of_mem k' hk'')) ⟨hl, fun u hu => hk.2 u (hget ▸ hu)⟩
        ⟨⟨l, none, rfl⟩, fun u hu => ho.2 u (hget ▸ hu)⟩
        (open_place_of_diverges v (o := some t) (fun u hu => Option.some.inj hu ▸ ht) hd')

/-- A source that has no other path to a place than the one of its sections may be laid in any order. -/
theorem open_value?_layer {l' : List (String × SettingsTree)} (h : l'.Perm l) (hp : SettingsPath.ofText k = [.part k])
    (hd : ∀ k' ∈ Table.keys l, k' = k ∨ (SettingsPath.ofText k').Diverges (k :: p))
    (hk : (branch l none).Keyed (k :: p)) (ho : (branch l none).Open (k :: p)) (ht : t.Open (k :: p)) :
    (t.layer l').Open (k :: p) ∧
      (t.layer l').value? (k :: p) = pick ((branch l none).value? (k :: p)) (t.value? (k :: p)) := by
  have hl : (Table.keys l).Nodup := hk.1
  rw [← value?_of_perm h hl none none]
  exact open_value?_layer_self hp (fun k' hk' => hd k' ((h.map Prod.fst).mem_iff.1 hk')) (hk.of_perm h) (ho.of_perm h hl) ht

/-- Where a source puts a value to a place, and nothing else there, its order does not matter. -/
theorem open_value?_layer_of_leaf {l' : List (String × SettingsTree)} (h : l'.Perm l) (hl : (Table.keys l).Nodup)
    (hk : SettingsPath.ofText k = p.map .part) (hp : p ≠ [])
    (hleaf : ∀ u, Table.get? l k = some u → ∀ under, u.lay under = u)
    (hd : ∀ k' ∈ Table.keys l, k' ≠ k → (SettingsPath.ofText k').Diverges p) (ht : t.Open p) :
    (t.layer l').Open p ∧ (t.layer l').value? p = pick (Table.get? l k) (t.value? p) := by
  have hd' (k' : String) (hk' : k' ∈ Table.keys l') (hne : k' ≠ k) : (SettingsPath.ofText k').Diverges p :=
    hd k' ((h.map Prod.fst).mem_iff.1 hk') hne
  have hl' : (Table.keys l').Nodup := (h.map Prod.fst).nodup_iff.2 hl
  have hget := Table.get?_of_perm h hl k
  cases hu : Table.get? l k with
  | none =>
    have hnot : k ∉ Table.keys l' := Table.get?_eq_none_iff.1 (hget.trans hu)
    have hrest : ∀ k' ∈ Table.keys l', (SettingsPath.ofText k').Diverges p := fun k' hk' =>
      hd' k' hk' fun hkk => hnot (hkk ▸ hk')
    exact ⟨open_layer_of_diverges ht hrest, value?_layer_of_diverges hrest t⟩
  | some u =>
    obtain ⟨a, b, rfl⟩ := List.append_of_mem (Table.mem_of_get?_eq_some (hget.trans hu))
    have hrest : ∀ k' ∈ Table.keys b, (SettingsPath.ofText k').Diverges p := fun k' hk' =>
      hd' k' (Table.mem_keys_of_after hk') (Table.ne_of_mem_keys_after hl' hk')
    have hself := value?_place_self (hleaf u hu) hp (t.layer a)
    rw [layer_append, layer_cons, hk, value?_layer_of_diverges hrest, hself, pick_some, hleaf u hu]
    exact ⟨open_layer_of_diverges (open_of_value? hself) hrest, rfl⟩

theorem exists_value?_layer_of_passes (h : ∀ k ∈ Table.keys l, (SettingsPath.ofText k).Passes p)
    (ht : ∃ x, t.value? p = some x ∧ (x = v ∨ x.Composite)) :
    ∃ x, (t.layer l).value? p = some x ∧ (x = v ∨ x.Composite) := by
  induction l generalizing t with
  | nil => exact ht
  | cons e l ih =>
    exact ih (fun k hk => h k (List.mem_cons_of_mem e.1 hk)) (exists_value?_place e.2 (h e.1 List.mem_cons_self) ht)

/-- A value stays where it is put, or something else gets inside it, unless a section that it is in is put anew. -/
theorem exists_value?_layer (hk : SettingsPath.ofText k = p.map .part) (hp : p ≠ []) (hv : ∀ under, v.lay under = v)
    (hm : (k, v) ∈ l) (hl : (Table.keys l).Nodup) (hd : ∀ k' ∈ Table.keys l, k' ≠ k → (SettingsPath.ofText k').Passes p)
    (t : SettingsTree) : ∃ x, (t.layer l).value? p = some x ∧ (x = v ∨ x.Composite) := by
  obtain ⟨a, b, rfl⟩ := List.append_of_mem hm
  rw [layer_append, layer_cons, hk]
  refine exists_value?_layer_of_passes (fun k' hk' => ?_) ⟨v, value?_place_self hv hp (t.layer a), .inl rfl⟩
  exact hd k' (Table.mem_keys_of_after hk') (Table.ne_of_mem_keys_after hl hk')

/-! What is read from JSON. -/

theorem keyed_parts {p : List String} (h : t.Keyed p) : (branch t.parts none).Keyed p := by
  cases p with
  | nil => trivial
  | cons k p => exact h

mutual

theorem keyed_ofJson? {o : Option Origin} (j : Json) {t : SettingsTree} (h : ofJson? o j = some t) (p : List String) :
    t.Keyed p := by
  cases j <;> rw [ofJson?] at h
  case object l => exact keyed_membersOfJson? l (fun _ => keyed_of_parts_nil rfl) h p
  case null | bool =>
    cases h
    exact keyed_of_parts_nil rfl
  case int | real | text | array =>
    obtain ⟨_, -, rfl⟩ := Option.map_eq_some_iff.1 h
    exact keyed_of_parts_nil rfl

theorem keyed_membersOfJson? {o : Option Origin} (l : List (Pieces × Json)) {t u : SettingsTree}
    (ht : ∀ p, t.Keyed p) (h : membersOfJson? o t l = some u) (p : List String) : u.Keyed p := by
  cases l with
  | nil =>
    cases h
    exact ht p
  | cons e l =>
    obtain ⟨k, v⟩ := e
    rw [membersOfJson?] at h
    obtain ⟨k, -, h⟩ := Option.bind_eq_some_iff.1 h
    obtain ⟨v', hv, h⟩ := Option.bind_eq_some_iff.1 h
    refine keyed_membersOfJson? l (fun p => ?_) h p
    cases p with
    | nil => trivial
    | cons k' p => exact (ht _).set fun _ => keyed_ofJson? v hv p

end

end SettingsTree

/-- The file of a name is JSON, if there is one. -/
def Files.IsJson (files : Files) (name : String) : Prop := ∀ m, files.named? name = some m → m.1 = .json

theorem Files.keyed_settings {files : Files} {name : String} {l : List (String × SettingsTree)} (hj : files.IsJson name)
    (h : files.settings name = .ok l) (p : List String) : (SettingsTree.branch l none).Keyed p := by
  cases hn : files.named? name with
  | none =>
    rw [Files.settings, hn] at h
    cases h
    exact SettingsTree.keyed_of_parts_nil rfl
  | some m =>
    obtain ⟨f, path, content⟩ := m
    obtain rfl : f = .json := hj _ hn
    rw [Files.settings, hn] at h
    dsimp only at h
    cases hr : FileFormat.json.read? path content with
    | none =>
      rw [hr] at h
      cases h
    | some t =>
      rw [hr] at h
      cases h
      simp only [FileFormat.read?, Option.bind_eq_bind, Option.bind_eq_some_iff, Option.ite_none_right_eq_some] at hr
      obtain ⟨v, -, -, hv⟩ := hr
      exact SettingsTree.keyed_parts (SettingsTree.keyed_ofJson? v hv p)

end SignIn
