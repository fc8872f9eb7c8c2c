import SignIn.Proofs.Table
import SignIn.Settings.Path

/-! What stands at a place in a tree of settings, where trees are laid over one another. -/

namespace SignIn

/-- The path leaves the way down these names at some section of it. -/
def SettingsPath.Diverges : SettingsPath → List String → Prop
  | .part k :: r, k' :: p => k ≠ k' ∨ SettingsPath.Diverges r p
  | _, _ => False

/-- The path neither ends on the way down these names nor takes a position there: it leaves the way, or goes on where
the way ends. -/
def SettingsPath.Passes : SettingsPath → List String → Prop
  | _ :: _, [] => True
  | .part k :: r, k' :: p => k ≠ k' ∨ SettingsPath.Passes r p
  | _, _ => False

namespace SettingsTree

variable {t u v : SettingsTree} {k : String} {p : List String} {r : SettingsPath} {l : List (String × SettingsTree)}

/-- What stands under these names, one inside the other. -/
def value? (t : SettingsTree) : List String → Option SettingsTree
  | [] => some t
  | k :: p => (t.get? k).bind (·.value? p)

/-- On the way down no name stands twice. -/
def Keyed (t : SettingsTree) : List String → Prop
  | [] => True
  | k :: p => t.parts.keys.Nodup ∧ ∀ u, t.get? k = some u → u.Keyed p

/-- On the way down all that there is are sections. -/
def Open (t : SettingsTree) : List String → Prop
  | [] => True
  | k :: p => (∃ l o, t = .branch l o) ∧ ∀ u, t.get? k = some u → u.Open p

/-- What comes of a value over another, where either may be missing. -/
def pick (above under : Option SettingsTree) : Option SettingsTree := (above.map (·.lay under)).or under

@[simp] theorem pick_none (under : Option SettingsTree) : pick none under = under := rfl

@[simp] theorem pick_some (v : SettingsTree) (under : Option SettingsTree) : pick (some v) under = some (v.lay under) := rfl

/-- Where something stands there are sections on the way. -/
theorem open_of_value? (h : t.value? p = some u) : t.Open p := by
  induction p generalizing t with
  | nil => trivial
  | cons k p ih =>
    obtain ⟨x, hx, h⟩ := Option.bind_eq_some_iff.1 h
    refine ⟨?_, fun y hy => ?_⟩
    · cases t with
      | branch l o => exact ⟨l, o, rfl⟩
      | leaf => cases hx
      | items => cases hx
    · obtain rfl := Option.some.inj (hx.symm.trans hy)
      exact ih h

theorem keyed_of_parts_nil (h : t.parts = []) : t.Keyed p := by
  cases p with
  | nil => trivial
  | cons k p =>
    refine ⟨by rw [h]; exact .nil, fun u hu => ?_⟩
    rw [get?, h] at hu
    cases hu

/-! Trees that are laid over others. -/

theorem get?_layAll (hl : Table.keys l |>.Nodup) (t : SettingsTree) (k : String) :
    (layAll l t).get? k = pick (Table.get? l k) (t.get? k) := by
  induction l generalizing t with
  | nil => rfl
  | cons e l ih =>
    obtain ⟨k', v⟩ := e
    obtain ⟨hk, hl⟩ := List.nodup_cons.1 hl
    rw [layAll, ih hl, Table.get?_cons]
    dsimp only
    split
    next h =>
      subst h
      rw [Table.get?_eq_none hk, pick_none, get?_set_self, pick_some]
    next h => rw [get?_set_of_ne _ _ (Ne.symm h)]

theorem exists_layAll (l : List (String × SettingsTree)) {t : SettingsTree} (ht : ∃ l' o, t = .branch l' o) :
    ∃ l' o, layAll l t = .branch l' o := by
  induction l generalizing t with
  | nil => exact ht
  | cons e l ih =>
    obtain ⟨l', o, rfl⟩ := ht
    exact ih ⟨_, _, rfl⟩

theorem exists_layAll_cons (e : String × SettingsTree) (l : List (String × SettingsTree)) (t : SettingsTree) :
    ∃ e' l' o, layAll (e :: l) t = .branch (e' :: l') o := by
  induction l generalizing e t with
  | nil =>
    obtain ⟨k, v⟩ := e
    cases t <;> exact ⟨_, _, _, rfl⟩
  | cons e' l ih =>
    obtain ⟨k, v⟩ := e
    rw [layAll]
    exact ih e' _

theorem value?_lay (hk : v.Keyed p) (ho : v.Open p) (under : Option SettingsTree) :
    (v.lay under).value? p = pick (v.value? p) (under.bind (·.value? p)) := by
  induction p generalizing v under with
  | nil => cases under <;> rfl
  | cons k p ih =>
    obtain ⟨⟨l, o, rfl⟩, ho⟩ := ho
    have hu : (under.getD empty).get? k = under.bind (·.get? k) := by cases under <;> rfl
    have hl : (Table.keys l).Nodup := hk.1
    have hlay : (lay (.branch l o) under).get? k = pick (Table.get? l k) (under.bind (·.get? k)) := by
      rw [lay, get?_layAll hl, hu]
    rw [value?, hlay, value?]
    cases hg : (SettingsTree.branch l o).get? k with
    | none =>
      rw [show Table.get? l k = none from hg]
      cases under <;> rfl
    | some u =>
      rw [show Table.get? l k = some u from hg, pick_some, Option.bind_some, ih (hk.2 u hg) (ho u hg)]
      cases under <;> rfl

theorem Keyed.set (h : t.Keyed (k :: p)) {k' : String} (hv : k' = k → v.Keyed p) : (t.set k' v).Keyed (k :: p) := by
  constructor
  · cases t with
    | branch l o => exact Table.nodup_keys_insert k' v h.1
    | leaf => exact List.nodup_cons.2 ⟨List.not_mem_nil, .nil⟩
    | items => exact List.nodup_cons.2 ⟨List.not_mem_nil, .nil⟩
  · intro u hu
    by_cases hk : k' = k
    · subst hk
      rw [get?_set_self] at hu
      cases hu
      exact hv rfl
    · rw [get?_set_of_ne _ _ (Ne.symm hk)] at hu
      exact h.2 u hu

/-- Laying a tree over another puts it in order. -/
theorem keyed_lay (v : SettingsTree) {under : Option SettingsTree} (h : ∀ u, under = some u → u.Keyed p) :
    (v.lay under).Keyed p := by
  induction p generalizing v under with
  | nil => trivial
  | cons k p ih =>
    have all (l : List (String × SettingsTree)) {t : SettingsTree} (ht : t.Keyed (k :: p)) :
        (layAll l t).Keyed (k :: p) := by
      induction l generalizing t with
      | nil => exact ht
      | cons e l ih' =>
        rw [layAll]
        refine ih' (ht.set fun hk => ih e.2 fun u hu => ?_)
        subst hk
        exact ht.2 u hu
    cases v with
    | leaf => exact keyed_of_parts_nil rfl
    | items => exact keyed_of_parts_nil rfl
    | branch l o =>
      rw [lay]
      refine all l ?_
      cases under with
      | none => exact keyed_of_parts_nil rfl
      | some u => exact h u rfl

theorem Open.lay (hv : v.Open p) (hk : v.Keyed p) {under : Option SettingsTree} (h : ∀ u, under = some u → u.Open p) :
    (v.lay under).Open p := by
  induction p generalizing v under with
  | nil => trivial
  | cons k p ih =>
    obtain ⟨⟨l, o, rfl⟩, ho⟩ := hv
    rw [SettingsTree.lay]
    have hbranch : ∃ l' o', under.getD empty = .branch l' o' := by
      cases under with
      | none => exact ⟨_, _, rfl⟩
      | some u => exact (h u rfl).1
    refine ⟨exists_layAll l hbranch, fun u hu => ?_⟩
    have hl : (Table.keys l).Nodup := hk.1
    rw [get?_layAll hl] at hu
    have hunder {x : SettingsTree} (hx : (under.getD empty).get? k = some x) : x.Open p := by
      cases under with
      | none => cases hx
      | some y => exact (h y rfl).2 x hx
    cases hg : Table.get? l k with
    | none =>
      rw [hg] at hu
      exact hunder hu
    | some x =>
      rw [hg] at hu
      cases hu
      exact ih (ho x hg) (hk.2 x hg) fun y hy => hunder hy

/-! Values that are put at the end of a path. -/

theorem exists_place_part (v : SettingsTree) (k : String) (r : SettingsPath) (t : SettingsTree) :
    ∃ u, place v (.part k :: r) t = t.set k u := by
  cases r <;> exact ⟨_, rfl⟩

theorem value?_getD_null {o : Option SettingsTree} (hp : p ≠ []) : (o.getD null).value? p = o.bind (·.value? p) := by
  cases o with
  | none => cases p with
    | nil => exact absurd rfl hp
    | cons k p => rfl
  | some t => rfl

theorem value?_place_of_diverges (v : SettingsTree) (h : SettingsPath.Diverges r p) (t : SettingsTree) :
    (place v r t).value? p = t.value? p := by
  induction r generalizing p t with
  | nil => cases h
  | cons s r ih =>
    cases s with
    | item n => cases h
    | part k =>
      cases p with
      | nil => cases h
      | cons k' p =>
        by_cases hk : k = k'
        · subst hk
          have hr : SettingsPath.Diverges r p := h.resolve_left (not_not_intro rfl)
          cases r with
          | nil => cases hr
          | cons s r =>
            have hp : p ≠ [] := by
              rintro rfl
              cases s <;> cases hr
            rw [place, value?, get?_set_self, Option.bind_some, ih hr, value?_getD_null hp, value?]
            exact List.cons_ne_nil _ _
        · obtain ⟨u, hu⟩ := exists_place_part v k r t
          rw [hu, value?, get?_set_of_ne _ _ (Ne.symm hk), value?]

/-- A value that is no section takes the place that it is put to. -/
theorem value?_place_self (hv : ∀ under, v.lay under = v) (hp : p ≠ []) (t : SettingsTree) :
    (place v (p.map .part) t).value? p = some v := by
  induction p generalizing t with
  | nil => exact absurd rfl hp
  | cons k p ih =>
    cases p with
    | nil => rw [List.map_cons, List.map_nil, place, value?, get?_set_self, hv]; rfl
    | cons k' p =>
      rw [List.map_cons, place, value?, get?_set_self, Option.bind_some]
      · exact ih (List.cons_ne_nil _ _) _
      · exact List.cons_ne_nil _ _

theorem value?_place_part (hk : v.Keyed p) (ho : v.Open p) (k : String) (t : SettingsTree) :
    (place v [.part k] t).value? (k :: p) = pick (v.value? p) (t.value? (k :: p)) := by
  rw [place, value?, get?_set_self, Option.bind_some, value?_lay hk ho, value?]

theorem keyed_place (v : SettingsTree) (hr : r ≠ []) (ht : t.Keyed p) : (place v r t).Keyed p := by
  induction r generalizing t p with
  | nil => exact absurd rfl hr
  | cons s r ih =>
    cases p with
    | nil => trivial
    | cons k' p =>
      cases s with
      | item n => exact keyed_of_parts_nil rfl
      | part k =>
        cases r with
        | nil =>
          refine ht.set ?_
          rintro rfl
          exact keyed_lay v fun u hu => ht.2 u hu
        | cons s r =>
          refine ht.set ?_
          rintro rfl
          refine ih (List.cons_ne_nil _ _) ?_
          cases hg : t.get? k with
          | none => exact keyed_of_parts_nil rfl
          | some u => exact ht.2 u hg

theorem exists_set (t : SettingsTree) (k : String) (v : SettingsTree) : ∃ l o, t.set k v = .branch l o := by
  cases t <;> exact ⟨_, _, rfl⟩

theorem Open.set (h : ∀ u, t.get? k = some u → u.Open p) {k' : String} (hv : k' = k → v.Open p) :
    (t.set k' v).Open (k :: p) := by
  refine ⟨exists_set t k' v, fun u hu => ?_⟩
  by_cases hk : k' = k
  · subst hk
    rw [get?_set_self] at hu
    cases hu
    exact hv rfl
  · rw [get?_set_of_ne _ _ (Ne.symm hk)] at hu
    exact h u hu

theorem open_place_of_diverges (v : SettingsTree) {o : Option SettingsTree} (h : ∀ u, o = some u → u.Open p)
    (hr : SettingsPath.Diverges r p) : (place v r (o.getD null)).Open p := by
  induction r generalizing p o with
  | nil => cases hr
  | cons s r ih =>
    cases s with
    | item n => cases hr
    | part k =>
      cases p with
      | nil => cases hr
      | cons k' p =>
        have hget (u : SettingsTree) (hu : (o.getD null).get? k' = some u) : u.Open p := by
          cases o with
          | none => cases hu
          | some t => exact (h t rfl).2 u hu
        cases r with
        | nil =>
          refine Open.set hget ?_
          rintro rfl
          exact absurd hr (not_or_intro (not_not_intro rfl) id)
        | cons s r =>
          refine Open.set hget ?_
          rintro rfl
          exact ih hget (hr.resolve_left (not_not_intro rfl))

theorem open_place_part (hk : v.Keyed p) (hv : v.Open p) (ht : t.Open (k :: p)) :
    (place v [.part k] t).Open (k :: p) :=
  Open.set ht.2 fun _ => hv.lay hk ht.2

/-! Values that have others inside. -/

/-- What has parts or positions. -/
inductive Composite : SettingsTree → Prop
  | items (l : List SettingsTree) (o : Option Origin) : Composite (.items l o)
  | parts (e : String × SettingsTree) (l : List (String × SettingsTree)) (o : Option Origin) :
    Composite (.branch (e :: l) o)

theorem Composite.ne_leaf (h : t.Composite) (v : Scalar) (o : Option Origin) : t ≠ .leaf v o := by
  rintro rfl
  cases h

theorem Composite.lay (h : t.Composite) (under : Option SettingsTree) : (t.lay under).Composite := by
  cases h with
  | items l o => exact .items l o
  | parts e l o =>
    obtain ⟨e', l', o', h⟩ := exists_layAll_cons e l (under.getD empty)
    rw [SettingsTree.lay, h]
    exact .parts e' l' o'

theorem composite_set (t : SettingsTree) (k : String) (v : SettingsTree) : (t.set k v).Composite := by
  cases t <;> exact .parts _ _ _

theorem composite_place (v : SettingsTree) (s : SettingsStep) (r : SettingsPath) (t : SettingsTree) :
    (place v (s :: r) t).Composite := by
  cases s with
  | part k =>
    obtain ⟨u, hu⟩ := exists_place_part v k r t
    rw [hu]
    exact composite_set t k u
  | item n => exact .items _ _

/-- What is put elsewhere leaves a value, or goes inside it. -/
theorem exists_value?_place (v : SettingsTree) (hr : SettingsPath.Passes r p)
    (ht : ∃ x, t.value? p = some x ∧ (x = u ∨ x.Composite)) :
    ∃ x, (place v r t).value? p = some x ∧ (x = u ∨ x.Composite) := by
  induction p generalizing r t with
  | nil =>
    cases r with
    | nil => cases hr
    | cons s r => exact ⟨_, rfl, .inr (composite_place v s r t)⟩
  | cons k' p ih =>
    cases r with
    | nil => cases hr
    | cons s r =>
      cases s with
      | item n => cases hr
      | part k =>
        by_cases hk : k = k'
        · subst hk
          have hr : SettingsPath.Passes r p := hr.resolve_left (not_not_intro rfl)
          cases r with
          | nil => cases p <;> cases hr
          | cons s r =>
            obtain ⟨x, hx, hu⟩ := ht
            obtain ⟨y, hy, hx⟩ := Option.bind_eq_some_iff.1 hx
            rw [place, value?, get?_set_self, Option.bind_some, hy]
            · exact ih hr ⟨x, hx, hu⟩
            · exact List.cons_ne_nil _ _
        · obtain ⟨w, hw⟩ := exists_place_part v k r t
          rwa [hw, value?, get?_set_of_ne _ _ (Ne.symm hk)]

/-! Trees with the same parts in another order. -/

section Order

variable {l' : List (String × SettingsTree)} {o o' : Option Origin}

theorem value?_of_perm (h : l'.Perm l) (hl : (Table.keys l).Nodup) (o o' : Option Origin) (k : String)
    (p : List String) : (branch l' o').value? (k :: p) = (branch l o).value? (k :: p) :=
  congrArg (·.bind (·.value? p)) (Table.get?_of_perm h hl k)

theorem Open.of_perm (h : l'.Perm l) (hl : (Table.keys l).Nodup) (ho : (branch l o).Open p) : (branch l' o').Open p := by
  cases p with
  | nil => trivial
  | cons k p => exact ⟨⟨l', o', rfl⟩, fun u hu => ho.2 u ((Table.get?_of_perm h hl k).symm.trans hu)⟩

theorem Keyed.of_perm (h : l'.Perm l) (hk : (branch l o).Keyed p) : (branch l' o').Keyed p := by
  cases p with
  | nil => trivial
  | cons k p =>
    have hl : (Table.keys l).Nodup := hk.1
    exact ⟨(h.map Prod.fst).nodup_iff.2 hl, fun u hu => hk.2 u ((Table.get?_of_perm h hl k).symm.trans hu)⟩

end Order

end SettingsTree
end SignIn
