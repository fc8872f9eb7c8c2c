import SignIn.Proofs.Service.Newcomer
import SignIn.Proofs.Settings.Sources

/-! What can halt a service: lifetimes that end beyond the calendar, and nothing else. -/

namespace SignIn

/-- The years 1970 to 9999. -/
def Instant.Ordinary (t : Int) : Prop := 0 ≤ t ∧ t ≤ 253402300799999

/-- A lifetime that ends in the calendar whenever it starts. -/
def Span.Bearable (ttl : Int) : Prop := ∀ t, Instant.Ordinary t → Instant.InCalendar (t + ttl)

theorem Span.bearable_iff {ttl : Int} : Bearable ttl ↔ -8334601228800000 ≤ ttl ∧ ttl ≤ 7956864576000000 := by
  constructor
  · intro h
    have hfirst := h 0 ⟨by omega, by omega⟩
    have hlast := h 253402300799999 ⟨by omega, by omega⟩
    unfold Instant.InCalendar Instant.earliest Instant.latest at hfirst hlast
    omega
  · intro h t ht
    unfold Instant.Ordinary at ht
    unfold Instant.InCalendar Instant.earliest Instant.latest
    omega

theorem Span.bearable_minutes {n : Int} : Bearable (n * 60000) ↔ -138910020480 ≤ n ∧ n ≤ 132614409600 := by
  rw [bearable_iff]
  omega

theorem Span.bearable_hours {n : Int} : Bearable (n * 3600000) ↔ -2315167008 ≤ n ∧ n ≤ 2210240160 := by
  rw [bearable_iff]
  omega

theorem Span.ofMillis?_eq_some_iff {n m : Int} : ofMillis? n = some m ↔ (-limit ≤ n ∧ n ≤ limit) ∧ m = n := by
  unfold ofMillis?
  split
  next h => simp [h, eq_comm]
  next h => simp [h]

namespace AuthSettings

/-- The lifetimes are spans. -/
structure Measurable (a : AuthSettings) : Prop where
  access : -Span.limit ≤ a.accessTtlMinutes.toInt * 60000 ∧ a.accessTtlMinutes.toInt * 60000 ≤ Span.limit
  refresh : -Span.limit ≤ a.refreshTtlHours.toInt * 3600000 ∧ a.refreshTtlHours.toInt * 3600000 ≤ Span.limit
  code : -Span.limit ≤ a.codeTtlMinutes.toInt * 60000 ∧ a.codeTtlMinutes.toInt * 60000 ≤ Span.limit

/-- The lifetimes end in the calendar whenever they start. -/
structure Bearable (a : AuthSettings) : Prop where
  access : -138910020480 ≤ a.accessTtlMinutes.toInt ∧ a.accessTtlMinutes.toInt ≤ 132614409600
  refresh : -2315167008 ≤ a.refreshTtlHours.toInt ∧ a.refreshTtlHours.toInt ≤ 2210240160
  code : -138910020480 ≤ a.codeTtlMinutes.toInt ∧ a.codeTtlMinutes.toInt ≤ 132614409600

theorem Bearable.measurable {a : AuthSettings} (h : a.Bearable) : a.Measurable := by
  obtain ⟨haccess, hrefresh, hcode⟩ := h
  have hl : Span.limit = 9223372036854775807 := rfl
  constructor <;> omega

end AuthSettings

namespace Service

/-- No call halts at an ordinary time, whatever happened before, as long as there are numbers for users. -/
def NeverHalts (s : Service) : Prop :=
  ∀ (src : Sources) (moves : Int → Prop) (t : Int) (past : List Step) (w : World Directory),
    Run s src moves (.fresh t) past w → Instant.Ordinary w.now → w.accounts.nextId ≠ Int64.maxValue →
      ∀ c, (w.perform s src c).1 ≠ none

theorem ofSettings?_eq_some_iff {name : String} {a : AuthSettings} {s : Service} :
    ofSettings? name a = some s ↔ a.Measurable ∧
      s = ⟨name, ⟨a.secret, a.issuer, a.accessTtlMinutes.toInt * 60000, a.refreshTtlHours.toInt * 3600000⟩,
        a.codeTtlMinutes.toInt * 60000, a.defaultRole⟩ := by
  unfold ofSettings? TokenCodec.ofTimes? Span.minutes? Span.hours?
  simp only [Option.pure_def, Option.bind_eq_bind, Option.bind_eq_some_iff, Option.some.injEq,
    Span.ofMillis?_eq_some_iff]
  constructor
  · rintro ⟨codec, ⟨access, ⟨haccess, rfl⟩, refresh, ⟨hrefresh, rfl⟩, rfl⟩, code, ⟨hcode, rfl⟩, rfl⟩
    exact ⟨⟨haccess, hrefresh, hcode⟩, rfl⟩
  · rintro ⟨h, rfl⟩
    exact ⟨_, ⟨_, ⟨h.access, rfl⟩, _, ⟨h.refresh, rfl⟩, rfl⟩, _, ⟨h.code, rfl⟩, rfl⟩

end Service

namespace Holdings

variable {s : Service} {src : Sources} {w : Holdings}

theorem exec_sendCode_ne_none (hc : Instant.InCalendar (w.now + s.codeTtl)) (channel : Channel) (address : String) :
    (exec src (s.sendCode channel address) w).1 ≠ none := by
  rw [exec_sendCode]
  split
  next => simp
  next =>
    split
    next => simp
    next =>
      rw [Passcode.draw?_eq_some_iff.2 ⟨hc, rfl⟩]
      dsimp only
      split <;> simp

theorem exec_register_ne_none (hc : Instant.InCalendar (w.now + s.codeTtl)) (hn : w.accounts.nextId ≠ Int64.maxValue)
    (r : Registration) : (exec src (s.register r) w).1 ≠ none := by
  rw [exec_register]
  split
  next => simp
  next f _ =>
    rw [exec_enroll]
    have hcreate := Directory.create_ne_none hn w.now
      (f.newUser (Password.hash (src.salts w.salts) r.password) s.defaultRole)
    split
    next h =>
      rw [h] at hcreate
      exact absurd rfl hcreate
    next => simp
    next => simp
    next d _ =>
      split
      next => simp
      next =>
        let v : Holdings := { w with salts := w.salts + 1, accounts := d }
        have hsend := @exec_sendCode_ne_none s src v hc f.channel f.address
        split
        next => simp
        next => simp
        next h =>
          rw [h] at hsend
          exact absurd rfl hsend

theorem exec_login_ne_none (ha : Instant.InCalendar (w.now + s.codec.accessTtl))
    (hr : Instant.InCalendar (w.now + s.codec.refreshTtl)) (c : Credentials) (ip userAgent : String) :
    (exec src (s.login c ip userAgent) w).1 ≠ none := by
  rw [exec_login]
  split
  next => simp
  next u role _ =>
    obtain ⟨pair, hp⟩ := TokenCodec.exists_issuePair ha hr ⟨u.id, u.name, u.roleId, src.ids w.ids⟩
    rw [hp]
    dsimp only
    split <;> simp

theorem exec_refresh_ne_none (ha : Instant.InCalendar (w.now + s.codec.accessTtl))
    (hr : Instant.InCalendar (w.now + s.codec.refreshTtl)) (token : String) :
    (exec src (s.refresh token) w).1 ≠ none := by
  rw [exec_refresh]
  split
  next => simp
  next c old _ =>
    split
    next => simp
    next =>
      obtain ⟨pair, hp⟩ := TokenCodec.exists_issuePair ha hr ⟨c.userId, c.userName, old.roleId, src.ids w.ids⟩
      rw [hp]
      dsimp only
      split
      next => simp
      next => split <;> simp

/-- What halts is that a lifetime does not end in the calendar, or that there is no number for a user. -/
theorem exec_ne_none (hcode : Instant.InCalendar (w.now + s.codeTtl))
    (haccess : Instant.InCalendar (w.now + s.codec.accessTtl))
    (hrefresh : Instant.InCalendar (w.now + s.codec.refreshTtl)) (hn : w.accounts.nextId ≠ Int64.maxValue) (c : Call) :
    (exec src (c.operation s) w).1 ≠ none := by
  cases c with
  | register r => exact exec_register_ne_none hcode hn r
  | login c ip userAgent => exact exec_login_ne_none haccess hrefresh c ip userAgent
  | refresh token => exact exec_refresh_ne_none haccess hrefresh token
  | sendCode channel address => exact exec_sendCode_ne_none hcode channel address
  | logout token =>
    rw [Call.operation, exec_logout]
    split <;> simp
  | sessions user =>
    rw [Call.operation, exec_sessionsOf]
    split <;> simp
  | revoke caller jti =>
    rw [Call.operation, exec_revoke]
    split
    next => simp
    next => split <;> simp
  | confirm channel address code =>
    rw [Call.operation, exec_confirm]
    split
    next =>
      split
      next => simp
      next =>
        split
        next => simp
        next => split <;> simp
    next => simp
  | changePassword user old new =>
    rw [Call.operation, exec_changePassword]
    split
    next => simp
    next =>
      split
      next => simp
      next => split <;> simp
  | authenticate token =>
    rw [Call.operation, exec_authenticate]
    split <;> simp
  | profile token =>
    rw [Call.operation, exec_profile]
    split
    next => simp
    next =>
      split
      next => simp
      next => split <;> simp

theorem exec_sendCode_eq_none {channel : Channel} {address a : String} {u : User}
    (ha : Text.filled? address = some a) (hu : w.accounts.byAddress? channel a = some u)
    (hc : ¬ Instant.InCalendar (w.now + s.codeTtl)) : (exec src (s.sendCode channel address) w).1 = none := by
  have hd : Passcode.draw? (src.codes w.draws) w.now s.codeTtl channel a u.id = none := by
    cases h : Passcode.draw? (src.codes w.draws) w.now s.codeTtl channel a u.id with
    | none => rfl
    | some p => exact absurd (Passcode.draw?_eq_some_iff.1 h).1 hc
  rw [exec_sendCode, ha]
  dsimp only
  rw [hu]
  dsimp only
  rw [hd]

theorem exec_register_eq_none {r : Registration} {f : Form} (hf : r.form = .ok f) (ha : f.Admissible s w.accounts)
    (hd : w.accounts.Lawful) (hc : ¬ Instant.InCalendar (w.now + s.codeTtl)) :
    (exec src (s.register r) w).1 = none := by
  obtain ⟨role, hrole⟩ := Option.isSome_iff_exists.1 ha.role
  have hfill := Registration.filled?_of_form hf (Registration.gives_of_form hf).address
  have hsend : (exec src (s.sendCode f.channel f.address) (w.enrolled src s f r.password)).1 = none :=
    exec_sendCode_eq_none hfill (ha.byAddress?_enrolled hf hd src r.password) hc
  rw [exec_register, hf]
  dsimp only
  rw [exec_enroll_of_create (Directory.create_of_free ha.role ha.number (ha.free_newUser _ _) _) hrole]
  split
  next h =>
    rw [h] at hsend
    cases hsend
  next h =>
    rw [h] at hsend
    cases hsend
  next => rfl

theorem exec_login_eq_none {c : Credentials} {u : User} {role : Role} (h : c.admitted w = .ok (u, role))
    (hn : ¬ (Instant.InCalendar (w.now + s.codec.accessTtl) ∧ Instant.InCalendar (w.now + s.codec.refreshTtl)))
    (ip userAgent : String) : (exec src (s.login c ip userAgent) w).1 = none := by
  have hp : s.codec.issuePair? w.now ⟨u.id, u.name, u.roleId, src.ids w.ids⟩ = none :=
    Option.not_isSome_iff_eq_none.1 fun hs => hn (TokenCodec.isSome_issuePair?_iff.1 hs)
  rw [exec_login, h]
  dsimp only
  rw [hp]

end Holdings

/-- Lifetimes that a service bears. -/
structure Service.Bears (s : Service) : Prop where
  code : Span.Bearable s.codeTtl
  access : Span.Bearable s.codec.accessTtl
  refresh : Span.Bearable s.codec.refreshTtl

variable {s : Service}

theorem Service.Bears.neverHalts (h : s.Bears) : s.NeverHalts := by
  intro src moves t past w _ ht hn c
  rw [World.perform_fst]
  exact Holdings.exec_ne_none (h.code _ ht) (h.access _ ht) (h.refresh _ ht) hn c

namespace Sample

/-- Ada does not get to register where her code would last beyond the calendar. -/
theorem perform_registers (hr : (Directory.role? s.defaultRole).isSome) {t : Int}
    (hn : ¬ Instant.InCalendar (t + s.codeTtl)) : ((World.fresh t).perform s sources registers).1 = none := by
  have hx : (Holdings.exec sources (s.register ada) (World.fresh t).holdings).1 = none :=
    Holdings.exec_register_eq_none form_ada (admissible_ada hr t) Directory.Lawful.empty hn
  exact (World.perform_fst s sources registers _).trans hx

theorem perform_logsIn {w : World Directory} {u : User} {role : Role}
    (h : Credentials.admitted w.holdings ⟨some "ada@home", none, "countess"⟩ = .ok (u, role))
    (hn : ¬ (Instant.InCalendar (w.now + s.codec.accessTtl) ∧ Instant.InCalendar (w.now + s.codec.refreshTtl))) :
    (w.perform s sources logsIn).1 = none := by
  rw [World.perform_fst]
  exact Holdings.exec_login_eq_none (w := w.holdings) h hn "::1" "curl"

end Sample

/-- Whoever registers, confirms and logs in would find out about a lifetime that does not end in the calendar. -/
theorem Service.NeverHalts.bears (h : s.NeverHalts) (hr : (Directory.role? s.defaultRole).isSome)
    (hpos : 0 < s.codeTtl) : s.Bears := by
  -- the code comes first: without it nobody gets as far as to log in
  have hcode : Span.Bearable s.codeTtl := by
    refine fun t ht => Decidable.byContradiction fun hn => ?_
    have hrun : Run s Sample.sources (0 ≤ ·) (.fresh t) [] (.fresh t) := .start
    exact h _ _ _ _ _ hrun ht (show (1 : UserId) ≠ _ by decide) _ (Sample.perform_registers hr hn)
  have hpair (t : Int) (ht : Instant.Ordinary t) :
      Instant.InCalendar (t + s.codec.accessTtl) ∧ Instant.InCalendar (t + s.codec.refreshTtl) := by
    refine Decidable.byContradiction fun hn => ?_
    have hrun : Run s Sample.sources (0 ≤ ·) (.fresh t) [] (.fresh t) := .start
    obtain ⟨a, u, role, w₁, w₂, hw₁, hw₂, hadm, -, -, hnext⟩ :=
      hrun.admits_newcomer Sample.form_ada (Sample.admissible_ada hr t) hpos (hcode t ht)
        (c := ⟨some "ada@home", none, "countess"⟩) rfl rfl
    have hnow : w₂.now = t := (World.now_of_perform hw₂).trans (World.now_of_perform hw₁)
    have hnumber : w₂.accounts.nextId ≠ Int64.maxValue := by
      rw [hnext]
      show (1 + 1 : UserId) ≠ Int64.maxValue
      decide
    rw [← hnow] at ht hn
    exact h _ _ _ _ _ ((hrun.call_of_perform hw₁).call_of_perform hw₂) ht hnumber _ (Sample.perform_logsIn hadm hn)
  exact ⟨hcode, fun t ht => (hpair t ht).1, fun t ht => (hpair t ht).2⟩

theorem AuthSettings.bears_iff_bearable {name : String} {a : AuthSettings}
    (h : Service.ofSettings? name a = some s) : s.Bears ↔ a.Bearable := by
  obtain ⟨-, rfl⟩ := Service.ofSettings?_eq_some_iff.1 h
  constructor
  · intro h
    exact ⟨Span.bearable_minutes.1 h.access, Span.bearable_hours.1 h.refresh, Span.bearable_minutes.1 h.code⟩
  · intro h
    exact ⟨Span.bearable_minutes.2 h.code, Span.bearable_minutes.2 h.access, Span.bearable_hours.2 h.refresh⟩

theorem Sweeper.isSome_start?_iff {n : Nat} : (start? n).isSome ↔ n ≠ 0 := by
  unfold start?
  split
  next h => simp [h]
  next h => simp [h]

/-- Of all settings only the lifetimes and the time between sweeps can halt anything: a service is there if its
lifetimes are spans, no call of it ever halts if they are short enough, and one does otherwise. -/
theorem halts_by_lifetimes_alone (st : Settings) :
    let service? := Service.ofSettings? st.notifications.serviceName st.auth
    (service?.isSome ↔ st.auth.Measurable) ∧
    (st.auth.Bearable → ∃ s, service? = some s ∧ s.NeverHalts) ∧
    (∀ s, service? = some s → (Directory.role? st.auth.defaultRole).isSome → 0 < st.auth.codeTtlMinutes.toInt →
      s.NeverHalts → st.auth.Bearable) ∧
    ((Sweeper.start? (st.auth.sweepIntervalSecs.toNat * 1000)).isSome ↔ st.auth.sweepIntervalSecs ≠ 0) ∧
    ∀ (src : Sources) (w : World Directory), (sweep.run (World.answer src) w).1 = some () := by
  intro service?
  refine ⟨?_, fun h => ?_, fun s hs hr hpos h => ?_, ?_, fun src w => w.run_sweep_fst src⟩
  · rw [Option.isSome_iff_exists]
    constructor
    · rintro ⟨s, hs⟩
      exact (Service.ofSettings?_eq_some_iff.1 hs).1
    · exact fun h => ⟨_, Service.ofSettings?_eq_some_iff.2 ⟨h, rfl⟩⟩
  · have hs : service? = some _ := Service.ofSettings?_eq_some_iff.2 ⟨h.measurable, rfl⟩
    exact ⟨_, hs, ((AuthSettings.bears_iff_bearable hs).2 h).neverHalts⟩
  · obtain ⟨-, he⟩ := Service.ofSettings?_eq_some_iff.1 hs
    refine (AuthSettings.bears_iff_bearable hs).1 (h.bears ?_ ?_)
    · rw [he]
      exact hr
    · rw [he]
      show 0 < st.auth.codeTtlMinutes.toInt * 60000
      omega
  · rw [Sweeper.isSome_start?_iff]
    have hz : st.auth.sweepIntervalSecs = 0 ↔ st.auth.sweepIntervalSecs.toNat = 0 := UInt64.toNat_inj.symm
    rw [Ne, Ne, hz]
    omega

namespace Sample

def heedless : Variables := [("APP_AUTH__JWT_SECRET", "s3cret"),
  ("APP_AUTH__ACCESS_TOKEN_TTL_MINUTES", "9223372036854775807"), ("APP_AUTH__SWEEP_INTERVAL_SECS", "0")]

def longing : Variables := [("APP_AUTH__JWT_SECRET", "s3cret"), ("APP_AUTH__OTP_TTL_MINUTES", "153722867280912")]

theorem load_heedless : Settings.load heedless [] = .ok { layered with auth := {
    layered.auth with issuer := "authcore", accessTtlMinutes := 9223372036854775807, codeTtlMinutes := 5,
                      defaultRole := 3, sweepIntervalSecs := 0 } } := by
  decide +kernel

theorem load_longing : Settings.load longing [] = .ok { layered with auth := {
    layered.auth with issuer := "authcore", codeTtlMinutes := 153722867280912, defaultRole := 3 } } := by
  decide +kernel

/-- Settings that are accepted, and there is no service, there are no sweeps, or the first registration halts. -/
theorem halts_by_accepted_settings :
    (∃ st, Settings.load heedless [] = .ok st ∧
      Service.ofSettings? st.notifications.serviceName st.auth = none ∧
      Sweeper.start? (st.auth.sweepIntervalSecs.toNat * 1000) = none) ∧
    ∃ st s, Settings.load longing [] = .ok st ∧
      Service.ofSettings? st.notifications.serviceName st.auth = some s ∧
      ((World.fresh 1700000000000).perform s sources registers).1 = none := by
  let s : Service := ⟨"authcore", ⟨"s3cret", "authcore", 900000, 2592000000⟩, 9223372036854720000, 3⟩
  have hs : ((World.fresh 1700000000000).perform s sources registers).1 = none :=
    perform_registers (s := s) rfl (by decide)
  exact ⟨⟨_, load_heedless, rfl, if_pos rfl⟩, _, s, load_longing, rfl, hs⟩

end Sample
end SignIn
