import SignIn.Proofs.Passcode.Store
import SignIn.Proofs.Password.Verify
import SignIn.Proofs.Service.Sound

/-! Whoever is new to a deployment can register with it, confirm an address and log in. -/

namespace SignIn

variable {s : Service} {src : Sources} {w : Holdings} {r : Registration} {f : Form}

theorem Form.Admissible.byAddress?_enrolled (ha : f.Admissible s w.accounts) (hf : r.form = .ok f)
    (hd : w.accounts.Lawful) (src : Sources) (password : String) :
    (w.enrolled src s f password).accounts.byAddress? f.channel f.address = some (w.newcomer src s f password) := by
  rw [Directory.byAddress?_eq_some_iff (ha.lawful hd password), Holdings.address_newcomer, Holdings.get?_enrolled]
  exact ⟨if_pos rfl, (Registration.gives_of_form hf).address⟩

/-- There is always a code to be sent to someone new: nobody had their address, so no code is out for it. -/
theorem Form.Admissible.not_unsent (ha : f.Admissible s w.accounts) (hf : r.form = .ok f) (hd : w.accounts.Lawful)
    (ho : w.codes.Owned w.accounts) (hc : Instant.InCalendar (w.now + s.codeTtl)) (password : String) :
    ¬(w.enrolled src s f password).Unsent s f.channel f.address := by
  have g := Registration.gives_of_form hf
  have hfill := Registration.filled?_of_form hf g.address
  have hself {a : String} (h : Text.filled? f.address = some a) : a = f.address := Option.some.inj (h.symm.trans hfill)
  rintro (h | ⟨h, hu⟩ | h | ⟨h, hl⟩)
  · rw [hfill] at h
    cases h
  · rw [hself h, ha.byAddress?_enrolled hf hd] at hu
    cases hu
  · exact h hc
  · rw [hself h] at hl
    obtain ⟨p, hp⟩ := Option.isSome_iff_exists.1 hl
    obtain ⟨e, he, -⟩ := PasscodeStore.live?_eq_some_iff.1 hp
    obtain ⟨u, hu, hua⟩ := ho.owner he
    exact ha.free _ u _ _ (Table.mem_of_get?_eq_some hu) g.address hua

/-- Once they have confirmed it they can log in with it. -/
theorem Form.Admissible.admitted (ha : f.Admissible s w.accounts) (hf : r.form = .ok f) (hd : w.accounts.Lawful)
    {role : Role} (hr : Directory.role? s.defaultRole = some role) {c : Credentials}
    (hc : c.address? = some (f.channel, f.address)) (src : Sources) (p : Passcode) :
    c.admitted (((w.enrolled src s f c.password).sent s p).confirmed w.accounts.nextId f.channel f.address) =
      .ok ((w.newcomer src s f c.password).verify f.channel w.now, role) := by
  have hl : (w.enrolled src s f c.password).accounts.Lawful := ha.lawful hd _
  have hu : ((w.enrolled src s f c.password).accounts.change w.accounts.nextId (·.verify f.channel w.now)).2.byAddress?
      f.channel f.address = some ((w.newcomer src s f c.password).verify f.channel w.now) := by
    rw [Directory.byAddress?_eq_some_iff (hl.change _ (User.same_verify · _ _)),
      Directory.get?_change hl, User.id_verify, User.address_verify, Holdings.address_newcomer, Holdings.get?_enrolled,
      if_pos rfl]
    exact ⟨if_pos rfl, (Registration.gives_of_form hf).address⟩
  have hhash : ((w.newcomer src s f c.password).verify f.channel w.now).passwordHash =
      Password.hash (src.salts w.salts) c.password := by
    cases f.channel <;> rfl
  have hrole : ((w.newcomer src s f c.password).verify f.channel w.now).roleId = s.defaultRole := by
    cases f.channel <;> rfl
  refine Credentials.admitted_eq_ok_iff.2 ⟨_, _, hc, hu, ?_, ?_, ?_⟩
  · rw [hhash]
    exact Password.verify_hash _ _
  · rw [User.verifiedAt_verify, if_pos rfl]
    rfl
  · rw [hrole]
    exact hr

namespace Holdings

open Effect

theorem exec_register_of_admissible (hf : r.form = .ok f) (ha : f.Admissible s w.accounts) (hd : w.accounts.Lawful)
    (ho : w.codes.Owned w.accounts) (hc : Instant.InCalendar (w.now + s.codeTtl)) (src : Sources) :
    ∃ role p, Directory.role? s.defaultRole = some role ∧
      (w.enrolled src s f r.password).Sends s src f.channel f.address p ∧
      exec src (s.register r) w =
        (some (.ok ⟨w.accounts.nextId, f.name, role.name, w.now + s.codeTtl⟩),
          (w.enrolled src s f r.password).sent s p) := by
  obtain ⟨role, hrole⟩ := Option.isSome_iff_exists.1 ha.role
  obtain ⟨p, hp, hx⟩ | ⟨hx, -⟩ := sendCode_cases s src (w.enrolled src s f r.password) f.channel f.address
  · refine ⟨role, p, hrole, hp, ?_⟩
    rw [exec_register, hf]
    dsimp only
    rw [exec_enroll_of_create (Directory.create_of_free ha.role ha.number (ha.free_newUser _ _) _) hrole, hx]
    rfl
  · exact absurd hx (ha.not_unsent hf hd ho hc _)

theorem Sends.live?_sent {channel : Channel} {address : String} {p : Passcode} (hp : w.Sends s src channel address p)
    (ht : 0 < s.codeTtl) : (w.sent s p).codes.live? w.now channel p.address = some p := by
  have hlt : w.now < p.expiresAt := by
    rw [hp.expiresAt]
    omega
  rw [sent, PasscodeStore.live?_insert, if_pos (by rw [hp.channel_eq]), Expiring.live?_eq_some_iff]
  exact ⟨hlt, rfl⟩

theorem exec_confirm_of_live? {channel : Channel} {address code a : String} {p : Passcode} {u : User}
    (ha : Text.filled? address = some a) (hc : Text.filled? code = some p.code)
    (hp : w.codes.live? w.now channel a = some p) (hu : w.accounts.byAddress? channel a = some u)
    (hid : w.accounts.users.get? u.id = some u) :
    exec src (Service.confirm channel address code) w = (some (.ok ()), w.confirmed u.id channel a) := by
  rw [exec_confirm, ha, hc]
  dsimp only
  rw [hp, Option.filter_some, if_pos (show p.accepts p.code = true from decide_eq_true rfl)]
  dsimp only
  rw [hu]
  dsimp only
  rw [hid]

/-- A code that was sent confirms the address it was sent to. -/
theorem Sends.exec_confirm {channel : Channel} {address : String} {p : Passcode} {u : User}
    (hp : w.Sends s src channel address p) (ht : 0 < s.codeTtl) (hu : w.accounts.byAddress? channel p.address = some u)
    (hid : w.accounts.users.get? u.id = some u) :
    exec src (Service.confirm channel address p.code) (w.sent s p) =
      (some (.ok ()), (w.sent s p).confirmed u.id channel p.address) := by
  refine exec_confirm_of_live? hp.filled ?_ (hp.live?_sent ht) hu hid
  rw [hp.code]
  exact Text.filled?_eq_some_iff.2 ⟨(Text.trim_codeText _).symm, Passcode.codeText_ne_empty _⟩

theorem login_of_admitted {c : Credentials} {u : User} {role : Role} (h : c.admitted w = .ok (u, role))
    (ha : Instant.InCalendar (w.now + s.codec.accessTtl)) (hc : Instant.InCalendar (w.now + s.codec.refreshTtl))
    (hj : src.ids w.ids ≠ "") (ip userAgent : String) :
    ∃ tokens, (exec src (s.login c ip userAgent) w).1 = some (.ok ⟨u.id, u.name, u.roleId, role.name, tokens⟩) := by
  obtain ⟨tokens, ht⟩ := TokenCodec.exists_issuePair ha hc ⟨u.id, u.name, u.roleId, src.ids w.ids⟩
  rw [exec_login, h]
  dsimp only
  rw [ht]
  dsimp only
  rw [if_neg hj]
  exact ⟨tokens, rfl⟩

end Holdings

/-- Whoever registers in order, with addresses that nobody has, is sent a code that confirms one, and may log in with
it from then on. -/
theorem Run.admits_newcomer {moves : Int → Prop} {t : Int} {past : List Step} {w : World Directory}
    (h : Run s src moves (.fresh t) past w) (hf : r.form = .ok f) (ha : f.Admissible s w.accounts)
    (hpos : 0 < s.codeTtl) (hcode : Instant.InCalendar (w.now + s.codeTtl)) {c : Credentials}
    (hc : c.address? = some (f.channel, f.address)) (hp : c.password = r.password) :
    ∃ a u role w₁ w₂, w.perform s src (.register r) = (some (.ok a), w₁) ∧
      w₁.perform s src (.confirm f.channel f.address (Passcode.codeText (src.codes w.draws))) = (some (.ok ()), w₂) ∧
      c.admitted w₂.holdings = .ok (u, role) ∧ u.id = a.id ∧ u.name = f.name ∧
      w₂.accounts.nextId = w.accounts.nextId + 1 := by
  have hfill := Registration.filled?_of_form hf (Registration.gives_of_form hf).address
  obtain ⟨role, p, hrole, hsends, hreg⟩ :=
    Holdings.exec_register_of_admissible (w := w.holdings) hf ha h.lawful h.owned hcode src
  have hpa : p.address = f.address := Option.some.inj (hsends.filled.symm.trans hfill)
  have howner := ha.byAddress?_enrolled (w := w.holdings) hf h.lawful src r.password
  have hid := ((Directory.byAddress?_eq_some_iff (ha.lawful h.lawful _)).1 howner).1
  have hconf := hsends.exec_confirm hpos (by rw [hpa]; exact howner) hid
  rw [hpa, hsends.code] at hconf
  obtain ⟨w₁, hw₁, h₁⟩ := World.perform_of_exec (c := .register r) hreg
  rw [← h₁] at hconf
  have hdraws : (w.holdings.enrolled src s f r.password).draws = w.draws := rfl
  rw [hdraws] at hconf
  obtain ⟨w₂, hw₂, h₂⟩ :=
    World.perform_of_exec (s := s) (c := .confirm f.channel f.address (Passcode.codeText (src.codes w.draws))) hconf
  have hadm := ha.admitted (w := w.holdings) hf h.lawful hrole hc src p
  rw [hp] at hadm
  rw [h₁] at h₂
  have hnext : w₂.accounts.nextId = w.accounts.nextId + 1 :=
    (congrArg (·.accounts.nextId) h₂).trans (Directory.nextId_change _ _ _)
  exact ⟨_, _, role, w₁, w₂, hw₁, hw₂, h₂ ▸ hadm, User.id_verify _ _ _, User.name_verify _ _ _, hnext⟩

/-- Then they are logged in. -/
theorem Run.welcomes {moves : Int → Prop} {t : Int} {past : List Step} {w : World Directory}
    (h : Run s src moves (.fresh t) past w) (hf : r.form = .ok f) (ha : f.Admissible s w.accounts)
    (hids : ∀ n, src.ids n ≠ "") (hpos : 0 < s.codeTtl) (hcode : Instant.InCalendar (w.now + s.codeTtl))
    (haccess : Instant.InCalendar (w.now + s.codec.accessTtl))
    (hrefresh : Instant.InCalendar (w.now + s.codec.refreshTtl)) {c : Credentials}
    (hc : c.address? = some (f.channel, f.address)) (hp : c.password = r.password) (ip userAgent : String) :
    ∃ a l w₁ w₂ w₃, w.perform s src (.register r) = (some (.ok a), w₁) ∧
      w₁.perform s src (.confirm f.channel f.address (Passcode.codeText (src.codes w.draws))) = (some (.ok ()), w₂) ∧
      w₂.perform s src (.login c ip userAgent) = (some (.ok l), w₃) ∧ l.id = a.id ∧ l.name = f.name := by
  obtain ⟨a, u, role, w₁, w₂, hw₁, hw₂, hadm, hid, hname, -⟩ := h.admits_newcomer hf ha hpos hcode hc hp
  have hnow : w₂.now = w.now := (World.now_of_perform hw₂).trans (World.now_of_perform hw₁)
  obtain ⟨tokens, hl⟩ := Holdings.login_of_admitted (s := s) hadm
    (show Instant.InCalendar (w₂.now + _) by rwa [hnow]) (show Instant.InCalendar (w₂.now + _) by rwa [hnow])
    (hids _) ip userAgent
  exact ⟨a, _, w₁, w₂, _, hw₁, hw₂, Prod.ext ((w₂.perform_fst s src _).trans hl) rfl, hid, hname⟩

namespace Sample

def service : Service := ⟨"Home", ⟨"secret", "home", 900000, 86400000⟩, 600000, 3⟩

def sources : Sources where
  ids n := .ofList (.replicate (n + 1) 'j')
  codes _ := 123456
  salts n := .replicate 16 (.ofNat n)
  carrier := .quiet

theorem ids_ne_empty (n : Nat) : sources.ids n ≠ "" := by
  simp [sources, List.replicate_succ]

def ada : Registration := ⟨"Ada", some "ada@home", none, "countess", "email"⟩

abbrev registers : Call := .register ada

abbrev confirms : Call := .confirm .email "ada@home" "123456"

abbrev logsIn : Call := .login ⟨some "ada@home", none, "countess"⟩ "::1" "curl"

theorem form_ada : ada.form = .ok ⟨"Ada", some "ada@home", none, .email, "ada@home"⟩ := rfl

theorem admissible_ada {s : Service} (h : (Directory.role? s.defaultRole).isSome) (t : Int) :
    Form.Admissible ⟨"Ada", some "ada@home", none, .email, "ada@home"⟩ s (World.fresh t).accounts :=
  ⟨h, show (1 : UserId) ≠ Int64.maxValue by decide, by rintro id v c a ⟨⟩⟩

/-- A newcomer to a deployment that nothing has happened to. -/
theorem welcomes_ada : ∃ a l w₁ w₂ w₃, (World.fresh 0).perform service sources registers = (some (.ok a), w₁) ∧
    w₁.perform service sources confirms = (some (.ok ()), w₂) ∧
    w₂.perform service sources logsIn = (some (.ok l), w₃) ∧ l.id = a.id ∧ l.name = "Ada" := by
  have hc : (⟨some "ada@home", none, "countess"⟩ : Credentials).address? = some (.email, "ada@home") := rfl
  have h : Run service sources (0 ≤ ·) (.fresh 0) [] (.fresh 0) := .start
  exact h.welcomes form_ada (admissible_ada rfl 0) ids_ne_empty (by decide) (by decide) (by decide) (by decide) hc rfl
    "::1" "curl"

end Sample
end SignIn
