import SignIn.Proofs.Settings.Places
import SignIn.Proofs.Token.Genuine
import SignIn.Settings.Conversion

/-! Settings one by one: where each stands in a tree, and what it becomes. -/

namespace SignIn

inductive Setting where
  | environment
  | databaseUrl | maxConnections | connectTimeoutSecs
  | secret | issuer | accessTtlMinutes | refreshTtlHours | codeTtlMinutes | defaultRole | sweepIntervalSecs
  | serviceName | smscHost | smscUser | smscPassword | mailFrom
  deriving DecidableEq

namespace Setting

def path : Setting → List String
  | .environment => ["environment"]
  | .databaseUrl => ["database", "url"]
  | .maxConnections => ["database", "max_connections"]
  | .connectTimeoutSecs => ["database", "connect_timeout_secs"]
  | .secret => ["auth", "jwt_secret"]
  | .issuer => ["auth", "issuer"]
  | .accessTtlMinutes => ["auth", "access_token_ttl_minutes"]
  | .refreshTtlHours => ["auth", "refresh_token_ttl_hours"]
  | .codeTtlMinutes => ["auth", "otp_ttl_minutes"]
  | .defaultRole => ["auth", "default_role_id"]
  | .sweepIntervalSecs => ["auth", "sweep_interval_secs"]
  | .serviceName => ["notifications", "service_name"]
  | .smscHost => ["notifications", "smsc_host"]
  | .smscUser => ["notifications", "smsc_user"]
  | .smscPassword => ["notifications", "smsc_password"]
  | .mailFrom => ["notifications", "mail_from"]

abbrev Value : Setting → Type
  | .maxConnections => UInt32
  | .connectTimeoutSecs | .sweepIntervalSecs => UInt64
  | .accessTtlMinutes | .refreshTtlHours | .codeTtlMinutes | .defaultRole => Int64
  | .smscHost | .smscUser | .smscPassword | .mailFrom => Option String
  | _ => String

def read : (x : Setting) → SettingsTree → Except SettingsError x.Value
  | .maxConnections => SettingsTree.half
  | .connectTimeoutSecs | .sweepIntervalSecs => SettingsTree.natural
  | .accessTtlMinutes | .refreshTtlHours | .codeTtlMinutes | .defaultRole => SettingsTree.int
  | .smscHost | .smscUser | .smscPassword | .mailFrom => SettingsTree.optional SettingsTree.text
  | .environment | .databaseUrl | .secret | .issuer | .serviceName => SettingsTree.text

/-- A setting is one value. -/
theorem exists_error (x : Setting) {t : SettingsTree} (ht : ∀ v o, t ≠ .leaf v o) : ∃ e, x.read t = .error e := by
  cases t with
  | leaf v o => exact absurd rfl (ht v o)
  | items => cases x <;> exact ⟨_, rfl⟩
  | branch => cases x <;> exact ⟨_, rfl⟩

/-- What a setting is that is not given; most have to be. -/
def absent? : (x : Setting) → Option x.Value
  | .smscHost | .smscUser | .smscPassword | .mailFrom => some none
  | _ => none

/-- What is given for a setting, if anything is, makes it `a`. -/
def Reads (x : Setting) (given : Option SettingsTree) (a : x.Value) : Prop :=
  match given with
  | none => x.absent? = some a
  | some t => x.read t = .ok a

theorem reads_iff {x : Setting} {given : Option SettingsTree} {a : x.Value} :
    x.Reads given a ↔ given = none ∧ x.absent? = some a ∨ ∃ t, given = some t ∧ x.read t = .ok a := by
  cases given <;> simp [Reads]

theorem Reads.unique {x : Setting} {given : Option SettingsTree} {a b : x.Value} (ha : x.Reads given a)
    (hb : x.Reads given b) : a = b := by
  cases given with
  | none => exact Option.some.inj (ha.symm.trans hb)
  | some t => exact Except.ok.inj (ha.symm.trans hb)

end Setting

def Settings.get (s : Settings) : (x : Setting) → x.Value
  | .environment => s.environment
  | .databaseUrl => s.database.url
  | .maxConnections => s.database.maxConnections
  | .connectTimeoutSecs => s.database.connectTimeoutSecs
  | .secret => s.auth.secret
  | .issuer => s.auth.issuer
  | .accessTtlMinutes => s.auth.accessTtlMinutes
  | .refreshTtlHours => s.auth.refreshTtlHours
  | .codeTtlMinutes => s.auth.codeTtlMinutes
  | .defaultRole => s.auth.defaultRole
  | .sweepIntervalSecs => s.auth.sweepIntervalSecs
  | .serviceName => s.notifications.serviceName
  | .smscHost => s.notifications.smscHost
  | .smscUser => s.notifications.smscUser
  | .smscPassword => s.notifications.smscPassword
  | .mailFrom => s.notifications.mailFrom

namespace SettingsFields

variable {α β : Type} {s : SettingsSection} {name : String}

/-- All fields are there and of the right type, and `P` holds of what they make. -/
def Gives (x : SettingsFields α) (s : SettingsSection) (P : α → Prop) : Prop := ∃ a, x.read s = .ok (.ok a) ∧ P a

theorem gives_map {f : α → β} {x : SettingsFields α} {P : β → Prop} :
    (f <$> x).Gives s P ↔ x.Gives s fun a => P (f a) := by
  show (∃ b, (x.read s).map (·.map f) = _ ∧ P b) ↔ _
  unfold Gives
  rcases x.read s with _ | (_ | a) <;> simp [Except.map]

theorem gives_seq {f : SettingsFields (α → β)} {x : SettingsFields α} {P : β → Prop} :
    (f <*> x).Gives s P ↔ f.Gives s fun g => x.Gives s fun a => P (g a) := by
  show (∃ b, (do let g ← f.read s; let a ← x.read s; return do return (← g) (← a)) = _ ∧ P b) ↔ _
  unfold Gives
  rcases f.read s with _ | (_ | g)
  · simp [bind, Except.bind]
  · rcases x.read s with _ | (_ | a) <;> simp [bind, Except.bind, pure, Except.pure]
  · rcases x.read s with _ | (_ | a) <;> simp [bind, Except.bind, pure, Except.pure]

theorem within_eq_ok_iff {r : Except SettingsError α} {f : SettingsError → SettingsError} {a : α} :
    ((r.mapError f).map .ok : Except SettingsError (Except SettingsError α)) = .ok (.ok a) ↔ r = .ok a := by
  constructor
  · intro h
    cases r <;> cases h
    rfl
  · rintro rfl
    rfl

section Branch

variable {n : String} {fields : List String} {l : List (String × SettingsTree)} {o : Option Origin}

theorem gives_field {read : SettingsTree → Except SettingsError α} {P : α → Prop} :
    (field name read).Gives ⟨n, fields, .branch l o⟩ P ↔ ∃ a, (∃ t, Table.get? l name = some t ∧ read t = .ok a) ∧ P a := by
  have hpart : SettingsSection.part? ⟨n, fields, .branch l o⟩ name = (Table.get? l name).map fun t => (t, name) := rfl
  unfold Gives field
  dsimp only
  rw [hpart]
  cases Table.get? l name with
  | none => simp
  | some t => simp [within_eq_ok_iff]

theorem gives_optionalField {read : SettingsTree → Except SettingsError α} {P : Option α → Prop} :
    (optionalField name read).Gives ⟨n, fields, .branch l o⟩ P ↔
      ∃ a, (Table.get? l name = none ∧ none = a ∨
        ∃ t, Table.get? l name = some t ∧ SettingsTree.optional read t = .ok a) ∧ P a := by
  have hread : (optionalField name read).read ⟨n, fields, .branch l o⟩ =
      if (Table.get? l name).isNone then .ok (.ok none)
      else (field name (SettingsTree.optional read)).read ⟨n, fields, .branch l o⟩ := by
    have hpart : SettingsSection.part? ⟨n, fields, .branch l o⟩ name = (Table.get? l name).map fun t => (t, name) :=
      rfl
    simp [optionalField, hpart, SettingsSection.isList]
  have hf : (field name (SettingsTree.optional read)).Gives ⟨n, fields, .branch l o⟩ P ↔ _ := gives_field
  unfold Gives at hf ⊢
  rw [hread]
  cases hg : Table.get? l name with
  | none => simp
  | some t =>
    rw [hg] at hf
    simpa using hf

theorem ofTree_branch {x : SettingsFields α} {a : α} :
    x.ofTree name (.branch l o) = .ok a ↔ x.Gives ⟨name, x.names, .branch l o⟩ (· = a) := by
  show (x.read ⟨name, x.names, .branch l o⟩ >>= fun r => r) = .ok a ↔ _
  rw [Except.bind_eq_ok_iff]
  constructor
  · rintro ⟨r, hr, rfl⟩
    exact ⟨a, hr, rfl⟩
  · rintro ⟨b, hr, rfl⟩
    exact ⟨_, hr, rfl⟩

end Branch

end SettingsFields

open SettingsFields SettingsTree

variable {l : List (String × SettingsTree)} {o : Option Origin} {k k' : String} {t : SettingsTree} {s : Settings}

theorem DatabaseSettings.ofTree_branch {d : DatabaseSettings} : ofTree (.branch l o) = .ok d ↔
    Setting.databaseUrl.Reads (Table.get? l "url") d.url ∧
    Setting.maxConnections.Reads (Table.get? l "max_connections") d.maxConnections ∧
    Setting.connectTimeoutSecs.Reads (Table.get? l "connect_timeout_secs") d.connectTimeoutSecs := by
  obtain ⟨url, n, secs⟩ := d
  rw [ofTree, SettingsFields.ofTree_branch]
  simp only [gives_seq, gives_map, gives_field, Setting.reads_iff, Setting.absent?, Setting.read, mk.injEq,
    reduceCtorEq, and_false, false_or]
  constructor
  · rintro ⟨_, h₁, _, h₂, _, h₃, rfl, rfl, rfl⟩
    exact ⟨h₁, h₂, h₃⟩
  · rintro ⟨h₁, h₂, h₃⟩
    exact ⟨_, h₁, _, h₂, _, h₃, rfl, rfl, rfl⟩

theorem AuthSettings.ofTree_branch {a : AuthSettings} : ofTree (.branch l o) = .ok a ↔
    Setting.secret.Reads (Table.get? l "jwt_secret") a.secret ∧
    Setting.issuer.Reads (Table.get? l "issuer") a.issuer ∧
    Setting.accessTtlMinutes.Reads (Table.get? l "access_token_ttl_minutes") a.accessTtlMinutes ∧
    Setting.refreshTtlHours.Reads (Table.get? l "refresh_token_ttl_hours") a.refreshTtlHours ∧
    Setting.codeTtlMinutes.Reads (Table.get? l "otp_ttl_minutes") a.codeTtlMinutes ∧
    Setting.defaultRole.Reads (Table.get? l "default_role_id") a.defaultRole ∧
    Setting.sweepIntervalSecs.Reads (Table.get? l "sweep_interval_secs") a.sweepIntervalSecs := by
  obtain ⟨secret, issuer, access, refresh, code, role, sweep⟩ := a
  rw [ofTree, SettingsFields.ofTree_branch]
  simp only [gives_seq, gives_map, gives_field, Setting.reads_iff, Setting.absent?, Setting.read, mk.injEq,
    reduceCtorEq, and_false, false_or]
  constructor
  · rintro ⟨_, h₁, _, h₂, _, h₃, _, h₄, _, h₅, _, h₆, _, h₇, rfl, rfl, rfl, rfl, rfl, rfl, rfl⟩
    exact ⟨h₁, h₂, h₃, h₄, h₅, h₆, h₇⟩
  · rintro ⟨h₁, h₂, h₃, h₄, h₅, h₆, h₇⟩
    exact ⟨_, h₁, _, h₂, _, h₃, _, h₄, _, h₅, _, h₆, _, h₇, rfl, rfl, rfl, rfl, rfl, rfl, rfl⟩

theorem NotificationSettings.ofTree_branch {n : NotificationSettings} : ofTree (.branch l o) = .ok n ↔
    Setting.serviceName.Reads (Table.get? l "service_name") n.serviceName ∧
    Setting.smscHost.Reads (Table.get? l "smsc_host") n.smscHost ∧
    Setting.smscUser.Reads (Table.get? l "smsc_user") n.smscUser ∧
    Setting.smscPassword.Reads (Table.get? l "smsc_password") n.smscPassword ∧
    Setting.mailFrom.Reads (Table.get? l "mail_from") n.mailFrom := by
  obtain ⟨service, host, user, password, sender⟩ := n
  rw [ofTree, SettingsFields.ofTree_branch]
  simp only [gives_seq, gives_map, gives_field, gives_optionalField, Setting.reads_iff, Setting.absent?, Setting.read, mk.injEq,
    reduceCtorEq, and_false, false_or, Option.some.injEq]
  constructor
  · rintro ⟨_, h₁, _, h₂, _, h₃, _, h₄, _, h₅, rfl, rfl, rfl, rfl, rfl⟩
    exact ⟨h₁, h₂, h₃, h₄, h₅⟩
  · rintro ⟨h₁, h₂, h₃, h₄, h₅⟩
    exact ⟨_, h₁, _, h₂, _, h₃, _, h₄, _, h₅, rfl, rfl, rfl, rfl, rfl⟩

theorem Settings.ofTree_branch : ofTree (.branch l o) = .ok s ↔
    Setting.environment.Reads (Table.get? l "environment") s.environment ∧
    (∃ t, Table.get? l "database" = some t ∧ DatabaseSettings.ofTree t = .ok s.database) ∧
    (∃ t, Table.get? l "auth" = some t ∧ AuthSettings.ofTree t = .ok s.auth) ∧
    ∃ t, Table.get? l "notifications" = some t ∧ NotificationSettings.ofTree t = .ok s.notifications := by
  obtain ⟨environment, database, auth, notifications⟩ := s
  rw [ofTree, SettingsFields.ofTree_branch]
  simp only [gives_seq, gives_map, gives_field, Setting.reads_iff, Setting.absent?, Setting.read, mk.injEq,
    reduceCtorEq, and_false, false_or]
  constructor
  · rintro ⟨_, h₁, _, h₂, _, h₃, _, h₄, rfl, rfl, rfl, rfl⟩
    exact ⟨h₁, h₂, h₃, h₄⟩
  · rintro ⟨h₁, h₂, h₃, h₄⟩
    exact ⟨_, h₁, _, h₂, _, h₃, _, h₄, rfl, rfl, rfl, rfl⟩

theorem SettingsTree.value?_singleton : (SettingsTree.branch l o).value? [k] = Table.get? l k := by
  rw [value?, show (fun u : SettingsTree => u.value? []) = some from rfl, Option.bind_fun_some]
  rfl

/-- A section that is a section, and what stands in it. -/
theorem SettingsTree.exists_section (ht : Table.get? l k = some t) (ho : (SettingsTree.branch l o).Open [k, k']) :
    ∃ m o', t = .branch m o' ∧ ∀ k', (SettingsTree.branch l o).value? [k, k'] = Table.get? m k' := by
  obtain ⟨m, o', rfl⟩ := (ho.2 t ht).1
  refine ⟨m, o', rfl, fun k' => ?_⟩
  rw [value?, show (SettingsTree.branch l o).get? k = _ from ht, Option.bind_some, value?_singleton]

namespace Settings

/-- Where all that is on the way to a setting are sections, it is what stands at its place. -/
theorem reads_of_ofTree (h : ofTree (.branch l o) = .ok s) {x : Setting} (ho : (SettingsTree.branch l o).Open x.path) :
    x.Reads ((SettingsTree.branch l o).value? x.path) (s.get x) := by
  obtain ⟨henvironment, ⟨d, hd, hdatabase⟩, ⟨a, ha, hauth⟩, n, hn, hnotifications⟩ := ofTree_branch.1 h
  cases x
  case environment => exact value?_singleton ▸ henvironment
  case databaseUrl | maxConnections | connectTimeoutSecs =>
    obtain ⟨m, _, rfl, hv⟩ := exists_section hd ho
    obtain ⟨_, _, _⟩ := DatabaseSettings.ofTree_branch.1 hdatabase
    exact hv _ ▸ ‹_›
  case secret | issuer | accessTtlMinutes | refreshTtlHours | codeTtlMinutes | defaultRole | sweepIntervalSecs =>
    obtain ⟨m, _, rfl, hv⟩ := exists_section ha ho
    obtain ⟨_, _, _, _, _, _, _⟩ := AuthSettings.ofTree_branch.1 hauth
    exact hv _ ▸ ‹_›
  case serviceName | smscHost | smscUser | smscPassword | mailFrom =>
    obtain ⟨m, _, rfl, hv⟩ := exists_section hn ho
    obtain ⟨_, _, _, _, _⟩ := NotificationSettings.ofTree_branch.1 hnotifications
    exact hv _ ▸ ‹_›

theorem ofTree_eq_ok_iff (ho : ∀ x : Setting, (SettingsTree.branch l o).Open x.path)
    (hs : ∀ k ∈ ["database", "auth", "notifications"], (Table.get? l k).isSome) :
    ofTree (.branch l o) = .ok s ↔ ∀ x : Setting, x.Reads ((SettingsTree.branch l o).value? x.path) (s.get x) := by
  refine ⟨fun h x => reads_of_ofTree h (ho x), fun h => ofTree_branch.2 ⟨value?_singleton ▸ h .environment, ?_⟩⟩
  obtain ⟨d, hd⟩ := Option.isSome_iff_exists.1 (hs "database" (by decide))
  obtain ⟨a, ha⟩ := Option.isSome_iff_exists.1 (hs "auth" (by decide))
  obtain ⟨n, hn⟩ := Option.isSome_iff_exists.1 (hs "notifications" (by decide))
  obtain ⟨_, _, rfl, hdv⟩ := exists_section hd (ho .databaseUrl)
  obtain ⟨_, _, rfl, hav⟩ := exists_section ha (ho .secret)
  obtain ⟨_, _, rfl, hnv⟩ := exists_section hn (ho .serviceName)
  refine ⟨⟨_, hd, DatabaseSettings.ofTree_branch.2 ?_⟩, ⟨_, ha, AuthSettings.ofTree_branch.2 ?_⟩, _, hn,
    NotificationSettings.ofTree_branch.2 ?_⟩
  · simp only [← hdv]
    exact ⟨h .databaseUrl, h .maxConnections, h .connectTimeoutSecs⟩
  · simp only [← hav]
    exact ⟨h .secret, h .issuer, h .accessTtlMinutes, h .refreshTtlHours, h .codeTtlMinutes, h .defaultRole,
      h .sweepIntervalSecs⟩
  · simp only [← hnv]
    exact ⟨h .serviceName, h .smscHost, h .smscUser, h .smscPassword, h .mailFrom⟩

end Settings
end SignIn
