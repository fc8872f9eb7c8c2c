import SignIn.Proofs.Settings.Layers
import SignIn.Proofs.Settings.Reading
import SignIn.Settings.VariableFile

/-! Variables as a source of settings. -/

namespace SignIn

namespace Setting

variable {x y : Setting}

/-- The variable for a setting, in small letters. -/
def variableName (x : Setting) : List Char := "app_".toList ++ List.intercalate ['_', '_'] (x.path.map String.toList)

theorem exists_path (x : Setting) : ∃ k p, x.path = k :: p ∧ SettingsPath.ofText k = [.part k] := by
  cases x <;> exact ⟨_, _, rfl, by decide +kernel⟩

theorem exists_section (x : Setting) :
    x.path = ["environment"] ∨ ∃ k ∈ ["database", "auth", "notifications"], ∃ k', x.path = [k, k'] := by
  cases x <;> simp [path]

/-- What a variable for the setting is for, as a path is written. -/
def key (x : Setting) : String := String.intercalate "." x.path

theorem ofText_key (x : Setting) : SettingsPath.ofText x.key = x.path.map .part := by
  cases x <;> decide +kernel

theorem path_ne_nil (x : Setting) : x.path ≠ [] := by
  cases x <;> exact List.cons_ne_nil _ _

theorem diverges (h : x ≠ y) : SettingsPath.Diverges (x.path.map .part) y.path := by
  cases x <;> cases y <;> first | exact absurd rfl h | simp [path, SettingsPath.Diverges]

theorem key_injective (h : x.key = y.key) : x = y := by
  cases x <;> cases y <;> first | rfl | exact absurd h (by decide +kernel)

end Setting

namespace Variables

variable {v v' : Variables} {x : Setting} {t : SettingsTree} {name : String}

def lowered (name : String) : List Char := name.toList.map lower

/-- No two variables differ in letter case only, and those for settings are for known ones. -/
structure Orderly (v : Variables) : Prop where
  inj : ∀ m ∈ v, ∀ m' ∈ v, lowered m.1 = lowered m'.1 → m.1 = m'.1
  known : ∀ m ∈ v, (key? m.1).isSome → ∃ x : Setting, lowered m.1 = x.variableName

theorem Orderly.of_subset (h : v.Orderly) (hs : v' ⊆ v) : v'.Orderly where
  inj m hm m' hm' := h.inj m (hs hm) m' (hs hm')
  known m hm := h.known m (hs hm)

/-- What is given for a setting. -/
def given? (v : Variables) (x : Setting) : Option SettingsTree :=
  (v.find? fun m => lowered m.1 = x.variableName).map fun m => .leaf (scalar m.2) (some .environment)

theorem key?_of_lowered (h : lowered name = x.variableName) : key? name = some x.key := by
  unfold lowered at h
  rw [key?, h]
  cases x <;> decide +kernel

theorem Orderly.exists_setting (hv : v.Orderly) {m : String × String} (hm : m ∈ v) {k : String} (hk : key? m.1 = some k) :
    ∃ x : Setting, lowered m.1 = x.variableName ∧ k = x.key := by
  obtain ⟨x, hx⟩ := hv.known m hm (Option.isSome_iff_exists.2 ⟨k, hk⟩)
  exact ⟨x, hx, Option.some.inj (hk.symm.trans (key?_of_lowered hx))⟩

theorem nodup_keys_settings (v : Variables) : (Table.keys v.settings).Nodup := Table.nodup_keys_ofList _

theorem get?_settings (v : Variables) (k : String) : Table.get? v.settings k =
    (v.reverse.find? fun m => key? m.1 = some k).map fun m => .leaf (scalar m.2) (some .environment) := by
  rw [settings, Table.get?_ofList, ← List.filterMap_reverse]
  generalize v.reverse = v
  induction v with
  | nil => rfl
  | cons m v ih =>
    cases hk : key? m.1 with
    | none => simp [hk, ih]
    | some k' =>
      by_cases hkk : k' = k
      · simp [hk, hkk, Table.get?_cons]
      · simp [hk, hkk, ih, Table.get?_cons]

theorem exists_of_mem_settings {k : String} (h : k ∈ Table.keys v.settings) : ∃ m ∈ v, key? m.1 = some k := by
  obtain ⟨u, hu⟩ := Option.ne_none_iff_exists'.1 fun hn => Table.get?_eq_none_iff.1 hn h
  rw [get?_settings] at hu
  obtain ⟨m, hm, -⟩ := Option.map_eq_some_iff.1 hu
  exact ⟨m, List.mem_reverse.1 (List.mem_of_find?_eq_some hm), by simpa using List.find?_some hm⟩

theorem get?_settings_of_last {before after : Variables} {m : String × String} {k : String} (hk : key? m.1 = some k)
    (h : ∀ m' ∈ after, key? m'.1 ≠ some k) :
    Table.get? (settings (before ++ m :: after)) k = some (.leaf (scalar m.2) (some .environment)) := by
  have hafter : after.reverse.find? (fun m => key? m.1 = some k) = none := by
    simpa using fun n a hm => h (n, a) hm
  rw [get?_settings, List.reverse_append, List.reverse_cons, List.append_assoc, List.find?_append, hafter, Option.none_or,
    List.singleton_append, List.find?_cons_of_pos (by simpa using hk), Option.map_some]
theorem lay_of_get?_settings {k : String} {u : SettingsTree} (h : Table.get? v.settings k = some u)
    (under : Option SettingsTree) : u.lay under = u := by
  rw [get?_settings] at h
  obtain ⟨m, -, rfl⟩ := Option.map_eq_some_iff.1 h
  rfl

theorem Orderly.get?_settings (hv : v.Orderly) (hn : (Table.keys v).Nodup) (x : Setting) :
    Table.get? v.settings x.key = v.given? x := by
  rw [given?]
  cases hf : v.find? fun m => lowered m.1 = x.variableName with
  | none =>
    refine Table.get?_eq_none fun hk => ?_
    obtain ⟨m, hm, hk⟩ := exists_of_mem_settings hk
    obtain ⟨y, hy, hxy⟩ := hv.exists_setting hm hk
    obtain rfl := Setting.key_injective hxy
    exact List.find?_eq_none.1 hf m hm (decide_eq_true hy)
  | some m =>
    have hx : lowered m.1 = x.variableName := by simpa using List.find?_some hf
    obtain ⟨before, after, rfl⟩ := List.append_of_mem (List.mem_of_find?_eq_some hf)
    refine get?_settings_of_last (key?_of_lowered hx) fun m' hm' hk => ?_
    -- A later variable for the setting would differ in letter case only.
    have hmem : m' ∈ before ++ m :: after := List.mem_append_right _ (List.mem_cons_of_mem m hm')
    obtain ⟨y, hy, hxy⟩ := hv.exists_setting hmem hk
    obtain rfl := Setting.key_injective hxy
    exact Table.ne_of_mem_keys_after hn (List.mem_map_of_mem hm')
      (hv.inj m' hmem m (List.mem_append_right _ List.mem_cons_self) (hy.trans hx.symm))

/-- In whatever order they come, the variables are laid over what there is at the places of their settings, and leave the
others. -/
theorem Orderly.open_value?_layer (hv : v.Orderly) (hn : (Table.keys v).Nodup) {l : List (String × SettingsTree)}
    (h : l.Perm v.settings) (ht : t.Open x.path) :
    (t.layer l).Open x.path ∧ (t.layer l).value? x.path = SettingsTree.pick (v.given? x) (t.value? x.path) := by
  rw [← hv.get?_settings hn x]
  refine SettingsTree.open_value?_layer_of_leaf h v.nodup_keys_settings x.ofText_key x.path_ne_nil
    (fun _ => lay_of_get?_settings) (fun k hk hne => ?_) ht
  obtain ⟨m, hm, hk⟩ := exists_of_mem_settings hk
  obtain ⟨y, -, rfl⟩ := hv.exists_setting hm hk
  rw [y.ofText_key]
  refine Setting.diverges ?_
  rintro rfl
  exact hne rfl

end Variables

namespace VariableFile

/-- The variables that a file gives, in an environment that may have some of them already. -/
def assigned (v : Variables) : List (List Char) → Variables
  | [] => []
  | s :: r => (line (fun name => (v.value? name).getD "") s).elim [] fun o => o.elim (assigned v r) fun m =>
    m :: assigned (if (v.value? m.1).isSome then v else v ++ [m]) r

theorem readLines_cons (v : Variables) (s : List Char) (r : List (List Char)) :
    readLines v (s :: r) = (line (fun name => (v.value? name).getD "") s).elim v fun o => o.elim (readLines v r) fun m =>
      readLines (if (v.value? m.1).isSome then v else v ++ [m]) r := by
  rw [readLines]
  rcases line (fun name => (v.value? name).getD "") s with _ | (_ | m) <;> rfl

/-- What the environment has comes before what a file gives. -/
theorem find?_readLines (P : String → Bool) (v : Variables) (l : List (List Char)) :
    (readLines v l).find? (fun m => P m.1) = (v.find? fun m => P m.1).or ((assigned v l).find? fun m => P m.1) := by
  induction l generalizing v with
  | nil => simp [readLines, assigned]
  | cons s r ih =>
    rw [readLines_cons, assigned]
    rcases line (fun name => (v.value? name).getD "") s with _ | (_ | m)
    · simp
    · exact ih v
    · simp only [Option.elim_some]
      rw [ih, List.find?_cons]
      split
      next hm =>
        cases hP : P m.1 with
        | false => rfl
        | true =>
          obtain ⟨a, ha⟩ := Option.isSome_iff_exists.1 hm
          have hfound : (v.find? fun m => P m.1).isSome :=
            List.find?_isSome.2 ⟨(m.1, a), Table.mem_of_get?_eq_some ha, hP⟩
          rw [Option.or_of_isSome hfound, Option.or_of_isSome hfound]
      next => cases hP : P m.1 <;> simp [hP, List.find?_append]

theorem subset_readLines (v : Variables) (l : List (List Char)) : readLines v l ⊆ v ++ assigned v l := by
  induction l generalizing v with
  | nil => simp [readLines]
  | cons s r ih =>
    rw [readLines_cons, assigned]
    rcases line (fun name => (v.value? name).getD "") s with _ | (_ | m)
    · simp
    · exact ih v
    · simp only [Option.elim_some]
      refine List.Subset.trans (ih _) ?_
      split <;> simp

theorem nodup_keys_readLines {v : Variables} (hv : (Table.keys v).Nodup) (l : List (List Char)) :
    (Table.keys (readLines v l)).Nodup := by
  induction l generalizing v with
  | nil => exact hv
  | cons s r ih =>
    rw [readLines_cons]
    rcases line (fun name => (v.value? name).getD "") s with _ | (_ | m)
    · exact hv
    · exact ih hv
    · simp only [Option.elim_some]
      refine ih ?_
      split
      next => exact hv
      next hm =>
        have hm' : m.1 ∉ Table.keys v := Table.get?_eq_none_iff.1 (Option.not_isSome_iff_eq_none.1 hm)
        rw [Table.keys, List.map_append]
        exact (List.perm_append_singleton _ _).nodup_iff.2 (List.nodup_cons.2 ⟨hm', hv⟩)

end VariableFile

end SignIn
