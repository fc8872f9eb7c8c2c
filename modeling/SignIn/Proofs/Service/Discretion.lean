import SignIn.Proofs.Service.Admission

/-! A login that does not bring the password is told the same whatever there is to tell. -/

namespace SignIn

/-- The user under the address that a login uses. -/
def Credentials.sought? (c : Credentials) (d : Directory) : Option User :=
  c.address?.bind fun a => d.byAddress? a.1 a.2

/-- Nobody is found, or somebody whose password is another. -/
def Credentials.Misses (c : Credentials) (d : Directory) : Prop :=
  ∀ u, c.sought? d = some u → Password.verify c.password u.passwordHash = false

variable {s : Service} {src : Sources} {c : Credentials}

theorem Credentials.isSome_address? (h : (c.email.bind Text.filled?).isSome ∨ (c.phone.bind Text.filled?).isSome) :
    c.address?.isSome := by
  unfold address?
  cases he : c.email.bind Text.filled? with
  | some email => rfl
  | none => cases hp : c.phone.bind Text.filled? with
    | some phone => rfl
    | none => simp [he, hp] at h

section

variable {w : Holdings} (ip userAgent : String)

theorem Credentials.admitted_of_misses (ha : c.address?.isSome) (h : c.Misses w.accounts) :
    c.admitted w = .error .authenticationFailed := by
  obtain ⟨⟨channel, address⟩, ha⟩ := Option.isSome_iff_exists.1 ha
  unfold Misses sought? at h
  rw [ha, Option.bind_some] at h
  rw [admitted, ha]
  dsimp only
  cases hu : w.accounts.byAddress? channel address with
  | none => rfl
  | some u =>
    dsimp only
    rw [if_pos (h u hu)]

/-- Whoever is told anything else has brought the password of the user they asked for. -/
theorem Credentials.exists_sought (ha : c.address?.isSome) (h : c.admitted w ≠ .error .authenticationFailed) :
    ∃ u, c.sought? w.accounts = some u ∧ Password.verify c.password u.passwordHash = true := by
  apply Classical.byContradiction
  intro hn
  apply h
  apply admitted_of_misses ha
  intro u hu
  apply Bool.eq_false_iff.2
  exact fun hp => hn ⟨u, hu, hp⟩

theorem Credentials.sought?_of_admitted {u : User} {role : Role} (h : c.admitted w = .ok (u, role)) :
    c.sought? w.accounts = some u := by
  obtain ⟨channel, address, ha, hu, -⟩ := admitted_eq_ok_iff.1 h
  rw [sought?, ha, Option.bind_some, hu]

theorem Holdings.exec_login_of_misses (ha : c.address?.isSome) (h : c.Misses w.accounts) :
    exec src (s.login c ip userAgent) w = (some (.error .authenticationFailed), w) := by
  rw [exec_login, Credentials.admitted_of_misses ha h]

theorem Holdings.admitted_of_notVerified
    (h : (exec src (s.login c ip userAgent) w).1 = some (.error .notVerified)) :
    c.admitted w = .error .notVerified := by
  rw [exec_login] at h
  split at h
  next e he =>
    cases h
    exact he
  next =>
    split at h
    next => cases h
    next => split at h <;> cases h

end

theorem Credentials.address?_of_notVerified {w : Holdings} (h : c.admitted w = .error .notVerified) :
    c.address?.isSome := by
  cases ha : c.address? with
  | some a => rfl
  | none =>
    rw [admitted, ha] at h
    cases h

/-- Two deployments give whoever does not bring the password one and the same answer, and stay as they are: whether
there is such a user, confirmed or not, with sessions or without, under another address too, is not seen. All that is
said of a user is said of the one under the address that was used, and to their password. -/
theorem gives_nothing_away {w w' : World Directory} (ip userAgent : String)
    (ha : (c.email.bind Text.filled?).isSome ∨ (c.phone.bind Text.filled?).isSome)
    (h : c.Misses w.accounts) (h' : c.Misses w'.accounts) :
    let e := ServiceError.authenticationFailed
    (w.perform s src (.login c ip userAgent)).1 = some (.error e) ∧
    (w'.perform s src (.login c ip userAgent)).1 = some (.error e) ∧
    e.message = "Authentication failed" ∧ e.clientMessage = e.message ∧ e.status = 401 ∧
    (w.perform s src (.login c ip userAgent)).2.holdings = w.holdings ∧
    (w'.perform s src (.login c ip userAgent)).2.holdings = w'.holdings ∧
    ∀ (v : World Directory) (b : Credentials),
      ((v.perform s src (.login b ip userAgent)).1 = some (.error .notVerified) →
        ∃ u, b.sought? v.accounts = some u ∧ Password.verify b.password u.passwordHash = true) ∧
      ∀ l, (v.perform s src (.login b ip userAgent)).1 = some (.ok l) →
        ∃ u, b.sought? v.accounts = some u ∧ Password.verify b.password u.passwordHash = true ∧ l.id = u.id := by
  have ha := Credentials.isSome_address? ha
  have missed {w : World Directory} (h : c.Misses w.accounts) :
      (w.perform s src (.login c ip userAgent)).1 = some (.error .authenticationFailed) ∧
        (w.perform s src (.login c ip userAgent)).2.holdings = w.holdings := by
    have hx : Holdings.exec src (s.login c ip userAgent) w.holdings = _ :=
      Holdings.exec_login_of_misses ip userAgent ha h
    obtain ⟨w₁, hw₁, h₁⟩ := World.perform_of_exec (c := .login c ip userAgent) hx
    rw [hw₁]
    exact ⟨rfl, h₁⟩
  refine ⟨(missed h).1, (missed h').1, rfl, rfl, rfl, (missed h).2, (missed h').2, fun v b => ⟨fun hv => ?_, ?_⟩⟩
  · rw [World.perform_fst] at hv
    have hb : b.admitted v.holdings = .error .notVerified := Holdings.admitted_of_notVerified ip userAgent hv
    have hne : b.admitted v.holdings ≠ .error .authenticationFailed := by simp [hb]
    exact Credentials.exists_sought (Credentials.address?_of_notVerified hb) hne
  · intro l hl
    have e := Step.effect s src ⟨v, .login b ip userAgent⟩
    rw [show Step.answer s src ⟨v, .login b ip userAgent⟩ = some (.ok l) from hl] at e
    obtain ⟨u, role, hu, hid, -⟩ := e.admitted_of_ok
    obtain ⟨channel, address, -, -, hp, -⟩ := Credentials.admitted_eq_ok_iff.1 hu
    exact ⟨u, Credentials.sought?_of_admitted hu, hp, hid⟩

namespace Sample

/-- A user whose password is kept as it is, which is the hash of none. -/
def unhashed : World Directory where
  now := 0
  accounts := ⟨[(1, ⟨1, some "555", some "ada@home", "Ada", "countess", 3, some 0, none, 0, 0⟩)], 2⟩

/-- Somebody who is there is denied like somebody who is not, and their phone is not asked after. -/
theorem gives_nothing_away_unhashed :
    let c : Credentials := ⟨some " ada@home", some "555", "countess"⟩
    c.sought? unhashed.accounts ≠ none ∧ c.sought? (World.fresh 7).accounts = none ∧
      (unhashed.perform service sources (.login c "::1" "curl")).1 = some (.error .authenticationFailed) ∧
      ((World.fresh 7).perform service sources (.login c "::1" "curl")).1 = some (.error .authenticationFailed) ∧
      (unhashed.perform service sources (.login c "::1" "curl")).2.sessions = unhashed.sessions := by
  intro c
  have hu : c.Misses unhashed.accounts := by
    rintro u ⟨⟩
    rfl
  have hn : c.Misses (World.fresh 7).accounts := by
    rintro u ⟨⟩
  obtain ⟨h, h', -, -, -, hw, -⟩ :=
    @gives_nothing_away service sources c _ _ "::1" "curl" (.inl (by rfl)) hu hn
  exact ⟨by decide, rfl, h, h', congrArg Holdings.sessions hw⟩

end Sample
end SignIn
