import SignIn.Proofs.Settings.Sources
import SignIn.Proofs.Text.Number

/-! What becomes of the text of a variable. -/

namespace SignIn

namespace Variables

variable {v : String} {o : Option Origin}

/-- The text is a number in decimal. -/
def Denotes (v : String) (n : Int64) : Prop := Text.integer? v.toList = some n.toInt

theorem denotes_iff {n : Int64} : Denotes v n ↔ (Text.integer? v.toList).bind int64? = some n := by
  rw [Denotes]
  constructor
  · intro h
    rw [h, Option.bind_some, int64?_toInt]
  · intro h
    obtain ⟨k, hk, h⟩ := Option.bind_eq_some_iff.1 h
    rw [int64?] at h
    split at h
    next hb =>
      cases h
      rw [hk, Int64.toInt_ofInt_of_le hb.1 (Int.lt_of_le_of_lt hb.2 (by decide))]
    next => cases h

/-- What a text is taken for. -/
inductive TakenFor (v : String) : Scalar → Prop
  | word (b : Bool) (h : v.toLower = toString b) : TakenFor v (.bool b)
  | whole (n : Int64) (h : Denotes v n) : TakenFor v (.int n)
  | real (x : Double) (hn : ∀ n, ¬Denotes v n) (h : Double.ofText? v = some x) : TakenFor v (.real x)
  | verbatim (hb : ∀ b : Bool, v.toLower ≠ toString b) (hn : ∀ n, ¬Denotes v n) (hx : Double.ofText? v = none) :
    TakenFor v (.text v)

theorem takenFor_scalar (v : String) : TakenFor v (scalar v) := by
  rw [scalar]
  split
  next h => exact .word true h
  next ht =>
    split
    next h => exact .word false h
    next hf =>
      split
      next n h => exact .whole n (denotes_iff.2 h)
      next h =>
        have hn (n : Int64) : ¬Denotes v n := fun hn => by
          cases h.symm.trans (denotes_iff.1 hn)
        split
        next x hx => exact .real x hn hx
        next hx => exact .verbatim (fun b => by cases b <;> assumption) hn hx

theorem word?_of_toLower {b : Bool} (h : v.toLower = toString b) : word? v = some b := by
  cases b <;> rw [word?, h] <;> decide

theorem not_denotes {b : Bool} (h : word? v = some b) (n : Int64) : ¬Denotes v n := fun hn => by
  cases (Text.not_number (Option.isSome_of_eq_some h)).1.symm.trans hn

theorem not_real {b : Bool} (h : word? v = some b) : Double.ofText? v = none :=
  (Text.not_number (Option.isSome_of_eq_some h)).2

theorem bind_int64?_eq_none (hn : ∀ n, ¬Denotes v n) : (Text.integer? v.toList).bind int64? = none :=
  Option.eq_none_iff_forall_ne_some.2 fun n h => hn n (denotes_iff.2 h)

theorem word_or_not (v : String) : (∃ b : Bool, v.toLower = toString b) ∨ v.toLower ≠ "true" ∧ v.toLower ≠ "false" := by
  by_cases ht : v.toLower = "true"
  · exact .inl ⟨true, ht⟩
  · by_cases hf : v.toLower = "false"
    · exact .inl ⟨false, hf⟩
    · exact .inr ⟨ht, hf⟩

theorem TakenFor.scalar_eq {a : Scalar} (h : TakenFor v a) : scalar v = a := by
  obtain ⟨b, hb⟩ | ⟨ht, hf⟩ := word_or_not v
  · have hw := word?_of_toLower hb
    have hscalar : scalar v = .bool b := by cases b <;> rw [scalar, hb] <;> rfl
    cases h with
    | word b' h =>
      rw [hscalar, Option.some.inj (hw.symm.trans (word?_of_toLower h))]
    | whole n h => exact absurd h (not_denotes hw n)
    | real x hn h => cases (not_real hw).symm.trans h
    | verbatim hb' hn hx => exact absurd hb (hb' b)
  · rw [scalar, if_neg ht, if_neg hf]
    cases h with
    | word b h => cases b <;> contradiction
    | whole n h => rw [denotes_iff.1 h]
    | real x hn h => rw [bind_int64?_eq_none hn, h]
    | verbatim hb hn hx => rw [bind_int64?_eq_none hn, hx]

/-- What a text is where a text is wanted. -/
inductive Spelled (v : String) : String → Prop
  | word (b : Bool) (h : v.toLower = toString b) : Spelled v (toString b)
  | whole (n : Int64) (h : Denotes v n) : Spelled v (toString n)
  | real (x : Double) (hn : ∀ n, ¬Denotes v n) (h : Double.ofText? v = some x) : Spelled v x.text
  | verbatim (hb : ∀ b : Bool, v.toLower ≠ toString b) (hn : ∀ n, ¬Denotes v n) (hx : Double.ofText? v = none) :
    Spelled v v

/-- What a text is where a number is wanted. -/
inductive Signed (v : String) : Int64 → Prop
  | word (b : Bool) (h : word? v = some b) : Signed v (if b then 1 else 0)
  | whole (n : Int64) (h : Denotes v n) : Signed v n
  | real (x : Double) (hn : ∀ n, ¬Denotes v n) (h : Double.ofText? v = some x) :
    Signed v (.ofInt (x.round Int64.minValue.toInt Int64.maxValue.toInt))

/-- What a text is where a number is wanted that is not negative. -/
inductive Unsigned (v : String) : UInt64 → Prop
  | word (b : Bool) (h : word? v = some b) : Unsigned v (if b then 1 else 0)
  | whole (n : Int64) (h : Denotes v n) (hn : 0 ≤ n) : Unsigned v (.ofNat n.toInt.toNat)
  | real (x : Double) (hn : ∀ n, ¬Denotes v n) (h : Double.ofText? v = some x) :
    Unsigned v (.ofNat (x.round 0 (UInt64.size - 1)).toNat)

theorem text_scalar_iff {a : String} : SettingsTree.text (.leaf (scalar v) o) = .ok a ↔ Spelled v a := by
  constructor
  · intro h
    have ht := takenFor_scalar v
    generalize scalar v = y at h ht
    cases ht with
    | word b hb =>
      cases h
      exact .word b hb
    | whole n hn =>
      cases h
      exact .whole n hn
    | real x hn hx =>
      cases h
      exact .real x hn hx
    | verbatim hb hn hx =>
      cases h
      exact .verbatim hb hn hx
  · intro h
    cases h with
    | word b h => rw [TakenFor.scalar_eq (.word b h)]; rfl
    | whole n h => rw [TakenFor.scalar_eq (.whole n h)]; rfl
    | real x hn h => rw [TakenFor.scalar_eq (.real x hn h)]; rfl
    | verbatim hb hn hx => rw [TakenFor.scalar_eq (.verbatim hb hn hx)]; rfl

theorem scalar_of_word {b : Bool} (h : word? v = some b) : scalar v = .bool b ∨ scalar v = .text v := by
  obtain ⟨b', hb⟩ | ⟨ht, hf⟩ := word_or_not v
  · obtain rfl := Option.some.inj (h.symm.trans (word?_of_toLower hb))
    exact .inl (TakenFor.scalar_eq (.word b hb))
  · have hb (b : Bool) : v.toLower ≠ toString b := by cases b <;> assumption
    exact .inr (TakenFor.scalar_eq (.verbatim hb (not_denotes h) (not_real h)))

/-- Where a number is wanted, a text that is none is a word for one or zero. -/
theorem int_text_iff (hn : ∀ n, ¬Denotes v n) {a : Int64} :
    SettingsTree.int (.leaf (.text v) o) = .ok a ↔ ∃ b, word? v = some b ∧ (if b then 1 else 0) = a := by
  rw [SettingsTree.int, bind_int64?_eq_none hn]
  cases word? v with
  | none => simp [SettingsTree.mistyped]
  | some b => cases b <;> simp [SettingsTree.boolean]

theorem natural_text_iff (hx : Double.ofText? v = none) {a : UInt64} :
    SettingsTree.natural (.leaf (.text v) o) = .ok a ↔ ∃ b, word? v = some b ∧ (if b then 1 else 0) = a := by
  have hnat : Text.natural? v.toList = none := by
    refine Option.eq_none_iff_forall_ne_some.2 fun n hn => ?_
    cases (hx ▸ Text.isSome_ofText? hn : (none : Option Double).isSome)
  rw [SettingsTree.natural, hnat]
  cases word? v with
  | none => simp [SettingsTree.mistyped]
  | some b => cases b <;> simp [SettingsTree.boolean]

theorem int_scalar_iff {a : Int64} : SettingsTree.int (.leaf (scalar v) o) = .ok a ↔ Signed v a := by
  constructor
  · intro h
    have ht := takenFor_scalar v
    generalize scalar v = y at h ht
    cases ht with
    | word b hb =>
      cases h
      cases b <;> exact .word _ (word?_of_toLower hb)
    | whole _ hn =>
      cases h
      exact .whole _ hn
    | real x hn hx =>
      cases h
      exact .real x hn hx
    | verbatim hb hn hx =>
      obtain ⟨b, hb, rfl⟩ := (int_text_iff hn).1 h
      exact .word b hb
  · intro h
    cases h with
    | word b h =>
      obtain hs | hs := scalar_of_word h <;> rw [hs]
      · cases b <;> rfl
      · exact (int_text_iff (not_denotes h)).2 ⟨b, h, rfl⟩
    | whole _ h =>
      rw [TakenFor.scalar_eq (.whole _ h)]
      rfl
    | real x hn h =>
      rw [TakenFor.scalar_eq (.real x hn h)]
      rfl

theorem natural_scalar_iff {a : UInt64} : SettingsTree.natural (.leaf (scalar v) o) = .ok a ↔ Unsigned v a := by
  constructor
  · intro h
    have ht := takenFor_scalar v
    generalize scalar v = y at h ht
    cases ht with
    | word b hb =>
      cases h
      cases b <;> exact .word _ (word?_of_toLower hb)
    | whole n hn =>
      rw [SettingsTree.natural] at h
      split at h
      next => cases h
      next hneg =>
        cases h
        exact .whole n hn (Int64.not_lt.1 hneg)
    | real x hn hx =>
      cases h
      exact .real x hn hx
    | verbatim hb hn hx =>
      obtain ⟨b, hb, rfl⟩ := (natural_text_iff hx).1 h
      exact .word b hb
  · intro h
    cases h with
    | word b h =>
      obtain hs | hs := scalar_of_word h <;> rw [hs]
      · cases b <;> rfl
      · exact (natural_text_iff (not_real h)).2 ⟨b, h, rfl⟩
    | whole n h hn =>
      rw [TakenFor.scalar_eq (.whole n h), SettingsTree.natural, if_neg (Int64.not_lt.2 hn)]
    | real x hn h =>
      rw [TakenFor.scalar_eq (.real x hn h)]
      rfl

theorem scalar_ne_null (v : String) : scalar v ≠ .null := by
  have h := takenFor_scalar v
  generalize scalar v = y at h
  rintro rfl
  cases h

end Variables

open Variables

/-- What the text of a variable makes of the setting that it is for. Only the low half of a number is kept for the
number of connections. -/
def Setting.Arrives (v : String) : (x : Setting) → x.Value → Prop
  | .maxConnections, n => ∃ k, Unsigned v k ∧ k.toUInt32 = n
  | .connectTimeoutSecs, n | .sweepIntervalSecs, n => Unsigned v n
  | .accessTtlMinutes, n | .refreshTtlHours, n | .codeTtlMinutes, n | .defaultRole, n => Signed v n
  | .smscHost, a | .smscUser, a | .smscPassword, a | .mailFrom, a => ∃ s, Spelled v s ∧ some s = a
  | .environment, s | .databaseUrl, s | .secret, s | .issuer, s | .serviceName, s => Spelled v s

theorem optional_scalar_iff {v : String} {o : Option Origin} {a : Option String} :
    SettingsTree.optional SettingsTree.text (.leaf (scalar v) o) = .ok a ↔ ∃ s, Spelled v s ∧ some s = a := by
  have hread : SettingsTree.optional SettingsTree.text (.leaf (scalar v) o) =
      (SettingsTree.text (.leaf (scalar v) o)).map some := by
    unfold SettingsTree.optional
    split
    next h => exact absurd (SettingsTree.leaf.inj h).1 (scalar_ne_null v)
    next => rfl
  simp only [hread, ← text_scalar_iff (o := o)]
  cases SettingsTree.text (.leaf (scalar v) o) <;> simp [Except.map]

theorem Setting.read_scalar_iff {x : Setting} {v : String} {o : Option Origin} {a : x.Value} :
    x.read (.leaf (scalar v) o) = .ok a ↔ x.Arrives v a := by
  cases x
  case maxConnections =>
    show (SettingsTree.natural (.leaf (scalar v) o) >>= fun k => pure k.toUInt32) = .ok a ↔ ∃ k, Unsigned v k ∧ k.toUInt32 = a
    simp only [Except.bind_eq_ok_iff, natural_scalar_iff]
    exact exists_congr fun k => and_congr_right fun _ => ⟨Except.ok.inj, congrArg Except.ok⟩
  case connectTimeoutSecs | sweepIntervalSecs => exact natural_scalar_iff
  case accessTtlMinutes | refreshTtlHours | codeTtlMinutes | defaultRole => exact int_scalar_iff
  case smscHost | smscUser | smscPassword | mailFrom => exact optional_scalar_iff
  case environment | databaseUrl | secret | issuer | serviceName => exact text_scalar_iff

theorem Setting.Arrives.unique {x : Setting} {v : String} {a b : x.Value} (ha : x.Arrives v a) (hb : x.Arrives v b) :
    a = b :=
  Except.ok.inj ((Setting.read_scalar_iff (o := none).2 ha).symm.trans (Setting.read_scalar_iff.2 hb))

namespace Settings

open SettingsTree

variable {environment : Variables} {files : Files} {before after : Variables} {name v : String} {x : Setting}

/-- What stands at the place of a setting that a variable is for. -/
theorem exists_value?_together (hv : allVariables environment files = before ++ (name, v) :: after)
    (hx : lowered name = x.variableName) (hlast : ∀ m ∈ after, key? m.1 ≠ key? name)
    (hothers : ∀ m ∈ before ++ after, ∀ k, key? m.1 = some k → key? name ≠ some k → (SettingsPath.ofText k).Passes x.path)
    (a : Arrangement) (special common : Table String SettingsTree) :
    ∃ u, (together a environment files special common).value? x.path = some u ∧
      (u = .leaf (scalar v) (some .environment) ∨ u.Composite) := by
  have hkey := key?_of_lowered hx
  have hperm := a.perm .variables (allVariables environment files).settings
  have hget : Table.get? (allVariables environment files).settings x.key =
      some (.leaf (scalar v) (some .environment)) := by
    rw [hv]
    exact get?_settings_of_last hkey fun m hm h => hlast m hm (h.trans hkey.symm)
  refine exists_value?_layer x.ofText_key x.path_ne_nil (fun _ => rfl) (hperm.mem_iff.2 (Table.mem_of_get?_eq_some hget))
    ((hperm.map Prod.fst).nodup_iff.2 (nodup_keys_settings _)) (fun k hk hne => ?_) _
  obtain ⟨m, hm, hk⟩ := exists_of_mem_settings ((hperm.map Prod.fst).mem_iff.1 hk)
  have hname : key? name ≠ some k := fun h => hne (Option.some.inj (h.symm.trans hkey))
  refine hothers m ?_ k hk hname
  rw [hv, List.mem_append, List.mem_cons] at hm
  obtain hm | rfl | hm := hm
  · exact List.mem_append_left _ hm
  · exact absurd hk hname
  · exact List.mem_append_right _ hm

/-- The last variable that is for a setting makes it what its text is for it, whatever else is given and in whatever order
it is laid, unless another variable is for a section that it is in. -/
theorem arrives_as (hv : allVariables environment files = before ++ (name, v) :: after)
    (hx : lowered name = x.variableName) (hlast : ∀ m ∈ after, key? m.1 ≠ key? name)
    (hothers : ∀ m ∈ before ++ after, ∀ k, key? m.1 = some k → key? name ≠ some k → (SettingsPath.ofText k).Passes x.path)
    (a : Arrangement) :
    (∀ s, loadIn a environment files = .ok s → x.Arrives v (s.get x)) ∧
      ((∀ r, ¬x.Arrives v r) → ∃ e, loadIn a environment files = .error e) := by
  have harrives (s : Settings) (h : loadIn a environment files = .ok s) : x.Arrives v (s.get x) := by
    simp only [loadIn, Except.bind_eq_ok_iff] at h
    obtain ⟨t, ht, s', hof, hcheck⟩ := h
    obtain ⟨rfl, -⟩ := check_eq_ok_iff.1 hcheck
    have hfiles := ht
    simp only [tree, Except.bind_eq_ok_iff] at hfiles
    obtain ⟨common, hc, special, hs, -⟩ := hfiles
    obtain ⟨l, o, htree, hlay⟩ := exists_lay_gathered (a := a) hc hs
    obtain rfl := Except.ok.inj (ht.symm.trans htree)
    -- The defaults lie under all that is gathered and are seen only where nothing else is.
    obtain ⟨u, hu, hleaf⟩ := exists_value?_together hv hx hlast hothers a special common
    have hgathered : (gathered a environment files special common).value? x.path = some u := by
      obtain ⟨k, p, hp, -⟩ := x.exists_path
      rw [hp] at hu ⊢
      rwa [value?_gathered]
    have hvalue : (branch l o).value? x.path = some (u.lay (defaults.value? x.path)) := by
      rw [← hlay, value?_lay (keyed_gathered ..) (open_of_value? hgathered), hgathered, pick_some]
      rfl
    have hreads := reads_of_ofTree hof (open_of_value? hvalue)
    rw [hvalue] at hreads
    obtain rfl | hu := hleaf
    · exact Setting.read_scalar_iff.1 hreads
    · -- No setting has anything inside.
      exact absurd hreads (not_reads (hu.lay _).ne_leaf)
  refine ⟨harrives, fun hnone => ?_⟩
  cases hload : loadIn a environment files with
  | error e => exact ⟨e, rfl⟩
  | ok s => exact absurd (harrives s hload) (hnone _)

end Settings

namespace Sample

open Settings

def agents : Variables := [("APP_AUTH__JWT_SECRET", "007")]

theorem arrives_as_agents :
    (∀ s, load agents [] = .ok s → Setting.secret.Arrives "007" s.auth.secret) ∧
      ∃ e, load (agents ++ [("APP_AUTH__OTP_TTL_MINUTES", "five")]) [] = .error e := by
  have hsecret : allVariables agents [] = [] ++ ("APP_AUTH__JWT_SECRET", "007") :: [] := rfl
  have hcode : allVariables (agents ++ [("APP_AUTH__OTP_TTL_MINUTES", "five")]) [] =
      agents ++ ("APP_AUTH__OTP_TTL_MINUTES", "five") :: [] := rfl
  have hother (m : String × String) (hm : m ∈ agents ++ []) (k : String) (hk : key? m.1 = some k) :
      (SettingsPath.ofText k).Passes Setting.codeTtlMinutes.path := by
    obtain rfl := List.mem_singleton.1 hm
    obtain rfl : Setting.secret.key = k := Option.some.inj ((key?_of_lowered (by decide +kernel)).symm.trans hk)
    rw [Setting.ofText_key]
    exact .inr (.inl (by decide))
  refine ⟨(arrives_as (x := .secret) hsecret (by decide +kernel) (fun _ hm => by cases hm) (fun _ hm => by cases hm)
    .asGiven).1, ?_⟩
  refine (arrives_as (x := .codeTtlMinutes) hcode (by decide +kernel) (fun _ hm => by cases hm)
    (fun m hm k hk _ => hother m hm k hk) .asGiven).2 fun a ha => ?_
  have hn : Text.integer? "five".toList = none := by decide +kernel
  have hx : Double.ofText? "five" = none := by decide +kernel
  cases ha with
  | word b h => exact absurd h (by cases b <;> decide +kernel)
  | whole _ h => cases hn.symm.trans h
  | real x _ h => cases hx.symm.trans h

/-- The first part is laid last. -/
def turned : Arrangement where
  arrange _ l := l.drop 1 ++ l.take 1
  perm _ l := (List.perm_append_comm).trans (.of_eq (List.take_append_drop 1 l))

/-- A section is given as a whole as well. -/
def whole : Variables := [("APP_AUTH", "x"), ("APP_AUTH__ISSUER", "mine"), ("APP_AUTH__JWT_SECRET", "s3cret")]

/-- One setting is given twice, and three others by texts that are no numbers for them. -/
def lax : Variables := [
  ("APP_AUTH__JWT_SECRET", "s3cret"), ("APP_AUTH__ISSUER", "mine"), ("app_auth__issuer", "yours"),
  ("APP_AUTH__OTP_TTL_MINUTES", "2.5"), ("APP_AUTH__DEFAULT_ROLE_ID", "yes"),
  ("APP_DATABASE__MAX_CONNECTIONS", "4294967303")]

/-- A secret may not arrive as it is written. What is in a section may not arrive at all where another variable gives the
section as a whole, even an earlier one. Texts that are no numbers, or too large ones, may be taken for numbers. -/
theorem arrives_otherwise :
    load agents [] = .ok { layered with auth := {
      layered.auth with secret := "7", issuer := "authcore", codeTtlMinutes := 5, defaultRole := 3 } } ∧
    loadIn turned whole [] = .ok { layered with auth := {
      layered.auth with issuer := "authcore", codeTtlMinutes := 5, defaultRole := 3 } } ∧
    load lax [] = .ok { layered with
      database := { layered.database with maxConnections := 7 }
      auth := { layered.auth with issuer := "yours", codeTtlMinutes := 3, defaultRole := 1 } } := by
  decide +kernel

end Sample
end SignIn
