import SignIn.Proofs.Service.Questions
import SignIn.Proofs.Session.Index
import SignIn.Proofs.Token.Lifetime

/-! What logging in and the operations on sessions answer and leave behind. -/

namespace SignIn

open Operation (say refuse require repositoryFailure storeFailure absentUser unknownUser absentSession)

variable {β : Type} {src : Sources} {w : Holdings}

/-- The claims of a refresh token and the session they name. -/
def Service.present (s : Service) (w : Holdings) (token : String) : Except ServiceError (Claims × Session) :=
  match s.codec.verify w.now .refresh token with
  | .error _ => .error .authenticationFailed
  | .ok c => match (w.sessions.live? w.now c.jti).filter (·.userId = c.userId) with
    | none => .error .sessionNotFound
    | some x => .ok (c, x)

theorem Service.live?_of_present {s : Service} {token : String} {p : Claims × Session}
    (h : s.present w token = .ok p) :
    s.codec.verify w.now .refresh token = .ok p.1 ∧ w.sessions.live? w.now p.1.jti = some p.2 ∧
      p.2.userId = p.1.userId := by
  unfold present at h
  cases hv : s.codec.verify w.now .refresh token with
  | error e =>
    rw [hv] at h
    cases h
  | ok c =>
    rw [hv] at h
    dsimp only at h
    split at h
    next => cases h
    next x hx =>
      cases h
      obtain ⟨hl, hu⟩ := Option.filter_eq_some_iff.1 hx
      exact ⟨rfl, hl, of_decide_eq_true hu⟩

/-- What is held once a session is opened. -/
def Holdings.opened (src : Sources) (w : Holdings) (x : Session) (ttl : Int) : Holdings :=
  { w with
    ids := w.ids + 1
    sessions := (w.sessions.remove (src.ids w.ids)).enter (src.ids w.ids)
      ⟨{ x with jti := src.ids w.ids }, w.now + ttl⟩ }

namespace Holdings

theorem exec_ownSession (c : Claims) (f : Session → Operation β) :
    exec src (Service.ownSession c >>= f) w =
      match (w.sessions.live? w.now c.jti).filter (·.userId = c.userId) with
      | some x => exec src (f x) w
      | none => (some (.error .sessionNotFound), w) := by
  rw [exec_bind, Service.ownSession, exec_sessions, SessionStore.answer, SessionStore.get]
  cases w.sessions.live? w.now c.jti with
  | none => rfl
  | some x =>
    by_cases hu : x.userId = c.userId
    · simp only [hu, ne_eq, not_true_eq_false, if_false, Option.filter_some, decide_true, if_true]
      rfl
    · simp only [hu, ne_eq, not_false_eq_true, if_true, Option.filter_some, decide_false, Bool.false_eq_true, if_false]
      rfl

theorem exec_present (s : Service) (token : String) (f : Claims → Session → Operation β) :
    exec src (do let c ← s.verified .refresh token; let x ← Service.ownSession c; f c x) w =
      match s.present w token with
      | .ok (c, x) => exec src (f c x) w
      | .error e => (some (.error e), w) := by
  rw [exec_verified, Service.present]
  cases s.codec.verify w.now .refresh token with
  | error e => rfl
  | ok c =>
    dsimp only
    rw [exec_ownSession]
    cases (w.sessions.live? w.now c.jti).filter (·.userId = c.userId) <;> rfl

theorem exec_end (jti : String) (refused : StoreError → Operation Unit) (f : Unit → Operation β) :
    exec src (Operation.sessions (.delete jti) refused >>= f) w =
      if (w.sessions.live? w.now jti).isSome then exec src (f ()) { w with sessions := w.sessions.remove jti }
      else exec src (refused .notFound >>= f) { w with sessions := w.sessions.remove jti } := by
  rw [exec_sessions, SessionStore.answer, SessionStore.delete_eq]
  cases (w.sessions.live? w.now jti).isSome <;> rfl

theorem exec_withdraw (jti : String) (f : Unit → Operation β) :
    exec src (Service.withdraw jti >>= f) w = exec src (f ()) { w with sessions := w.sessions.remove jti } := by
  rw [Service.withdraw, exec_end]
  split
  next => rfl
  next => rfl

theorem exec_logout (s : Service) (token : String) :
    exec src (s.logout token) w =
      match s.present w token with
      | .ok (c, _) => (some (.ok ()), { w with sessions := w.sessions.remove c.jti })
      | .error e => (some (.error e), w) := by
  rw [Service.logout, exec_present]
  cases h : s.present w token with
  | error e => rfl
  | ok p =>
    dsimp only
    rw [exec_end, (Service.live?_of_present h).2.1]
    rfl

theorem exec_revoke (caller : UserId) (jti : String) :
    exec src (Service.revoke caller jti) w =
      match w.sessions.live? w.now jti with
      | none => (some (.error .sessionNotFound), w)
      | some x =>
        if x.userId = caller then (some (.ok ()), { w with sessions := w.sessions.remove jti })
        else (some (.error .forbidden), w) := by
  rw [Service.revoke, exec_sessions, SessionStore.answer, SessionStore.get]
  cases h : w.sessions.live? w.now jti with
  | none => rfl
  | some x =>
    by_cases hu : x.userId = caller
    · simp only [hu, ne_eq, not_true_eq_false, if_false, if_true]
      rw [exec_end, h]
      rfl
    · simp only [hu, ne_eq, not_false_eq_true, if_true, if_false]
      rfl

def view (u : User) (x : Session) : SessionView :=
  ⟨x.jti, u.id, u.name, u.email, u.phone, x.roleId, x.userAgent, x.ip, x.createdAt⟩

theorem exec_sessionsOf (user : UserId) :
    exec src (Service.sessionsOf user) w =
      match w.accounts.users.get? user with
      | none => (some (.error .userNotFound), w)
      | some u =>
        (some (.ok ((w.sessions.list w.now user).1.map (view u))),
          { w with sessions := (w.sessions.list w.now user).2 }) := by
  rw [Service.sessionsOf, exec_byId]
  cases w.accounts.users.get? user with
  | none => rfl
  | some u => rfl

theorem exec_open (s : Service) (identity : String → Identity) (x : Int → Session) (action : String)
    (f : String → TokenPair → Operation β) :
    exec src (do
      let jti ← Operation.ask .mintId
      let tokens ← s.issuePair (identity jti)
      let now ← Operation.ask .clock
      Operation.sessions (.create jti (x now) s.codec.refreshTtl) (storeFailure action)
      f jti tokens) w =
      match s.codec.issuePair? w.now (identity (src.ids w.ids)) with
      | none => (none, { w with ids := w.ids + 1 })
      | some tokens =>
        if src.ids w.ids = "" then
          (some (.error (.internal (StoreError.internal "empty session key").message)), { w with ids := w.ids + 1 })
        else exec src (f (src.ids w.ids) tokens) (w.opened src (x w.now) s.codec.refreshTtl) := by
  rw [exec_mintId, exec_issuePair]
  cases h : s.codec.issuePair? w.now (identity (src.ids w.ids)) with
  | none => rfl
  | some tokens =>
    dsimp only
    rw [exec_clock, exec_sessions, SessionStore.answer]
    by_cases hj : src.ids w.ids = ""
    · rw [if_pos hj, SessionStore.create, if_pos hj]
      rfl
    · rw [if_neg hj, SessionStore.create_eq _ _ hj (TokenCodec.isSome_issuePair?_iff.1 (Option.isSome_of_eq_some h)).2]
      rfl

end Holdings

/-- An email address is looked at before a phone number. -/
def Credentials.address? (c : Credentials) : Option (Channel × String) :=
  match c.email.bind Text.filled?, c.phone.bind Text.filled? with
  | some email, _ => some (.email, email)
  | none, some phone => some (.phone, phone)
  | none, none => none

/-- The user who may log in with these credentials. -/
def Credentials.admitted (w : Holdings) (c : Credentials) : Except ServiceError (User × Role) :=
  match c.address? with
  | none => .error (.invalid "phone number or email is required")
  | some (channel, address) => match w.accounts.byAddress? channel address with
    | none => .error .authenticationFailed
    | some u =>
      if Password.verify c.password u.passwordHash = false then .error .authenticationFailed
      else if (u.verifiedAt channel).isNone then .error .notVerified
      else match Directory.role? u.roleId with
        | none => .error (.internal RepositoryError.notFound.message)
        | some role => .ok (u, role)

theorem Credentials.admitted_eq_ok_iff {c : Credentials} {u : User} {role : Role} :
    c.admitted w = .ok (u, role) ↔
      ∃ channel address, c.address? = some (channel, address) ∧ w.accounts.byAddress? channel address = some u ∧
        Password.verify c.password u.passwordHash = true ∧ (u.verifiedAt channel).isSome ∧
        Directory.role? u.roleId = some role := by
  unfold admitted
  constructor
  · intro h
    split at h
    next => cases h
    next channel address ha =>
      split at h
      next => cases h
      next v hv =>
        split at h
        next => cases h
        next hp =>
          split at h
          next => cases h
          next ht =>
            split at h
            next => cases h
            next r hr =>
              cases h
              exact ⟨channel, address, ha, hv, by simpa using hp, by simpa [Option.isSome_iff_ne_none] using ht, hr⟩
  · rintro ⟨channel, address, ha, hu, hp, ht, hr⟩
    simp [ha, hu, hp, hr, Option.isSome_iff_ne_none.1 ht]

/-- The session that a login opens. -/
def Holdings.loggedIn (src : Sources) (w : Holdings) (s : Service) (u : User) (userAgent ip : String) : Holdings :=
  w.opened src ⟨"", u.id, u.roleId, userAgent, ip, w.now⟩ s.codec.refreshTtl

/-- The session that a refresh opens in place of another. -/
def Holdings.rotated (src : Sources) (w : Holdings) (s : Service) (old : Session) (jti : String) : Holdings :=
  let w := w.opened src { old with jti := "", createdAt := w.now } s.codec.refreshTtl
  { w with sessions := w.sessions.remove jti }

namespace Holdings

theorem exec_login (s : Service) (c : Credentials) (ip userAgent : String) :
    exec src (s.login c ip userAgent) w =
      match c.admitted w with
      | .error e => (some (.error e), w)
      | .ok (u, role) =>
        match s.codec.issuePair? w.now ⟨u.id, u.name, u.roleId, src.ids w.ids⟩ with
        | none => (none, { w with ids := w.ids + 1 })
        | some tokens =>
          if src.ids w.ids = "" then
            (some (.error (.internal (StoreError.internal "empty session key").message)), { w with ids := w.ids + 1 })
          else (some (.ok ⟨u.id, u.name, u.roleId, role.name, tokens⟩), w.loggedIn src s u userAgent ip) := by
  unfold Service.login Credentials.admitted Credentials.address?
  -- by email or by phone, it is the same from here on
  rcases c.email.bind Text.filled? with _ | email
  rcases c.phone.bind Text.filled? with _ | phone
  · rfl
  all_goals
    dsimp only
    rw [pure_bind, Service.loginUser, bind_assoc, exec_say, exec_byAddress]
    cases w.accounts.byAddress? _ _ with
    | none => rfl
    | some u =>
      dsimp only
      cases Password.verify c.password u.passwordHash with
      | false => rfl
      | true => cases u.verifiedAt _ with
        | none => rfl
        | some t =>
          simp only [Bool.not_true, Bool.false_eq_true, Bool.true_eq_false, Option.isNone_some, if_false]
          rw [exec_role]
          cases Directory.role? u.roleId with
          | none => rfl
          | some role =>
            dsimp only
            rw [exec_open s (fun jti => ⟨u.id, u.name, u.roleId, jti⟩)
              (fun now => ⟨"", u.id, u.roleId, userAgent, ip, now⟩)]
            rfl

theorem exec_refresh (s : Service) (token : String) :
    exec src (s.refresh token) w =
      match s.present w token with
      | .error e => (some (.error e), w)
      | .ok (c, old) => match Directory.role? old.roleId with
        | none => (some (.error (.internal RepositoryError.notFound.message)), w)
        | some role =>
          match s.codec.issuePair? w.now ⟨c.userId, c.userName, old.roleId, src.ids w.ids⟩ with
          | none => (none, { w with ids := w.ids + 1 })
          | some tokens =>
            if src.ids w.ids = "" then
              (some (.error (.internal (StoreError.internal "empty session key").message)), { w with ids := w.ids + 1 })
            else if src.ids w.ids = c.jti ∧ s.codec.refreshTtl ≤ 0 then
              (some (.error .sessionNotFound), w.rotated src s old c.jti)
            else (some (.ok ⟨c.userId, c.userName, old.roleId, role.name, tokens⟩), w.rotated src s old c.jti) := by
  rw [Service.refresh, exec_present]
  cases h : s.present w token with
  | error e => rfl
  | ok p =>
    dsimp only
    rw [exec_role]
    cases Directory.role? p.2.roleId with
    | none => rfl
    | some role =>
      dsimp only
      rw [exec_open s (fun jti => ⟨p.1.userId, p.1.userName, p.2.roleId, jti⟩)
        (fun now => ⟨"", p.2.userId, p.2.roleId, p.2.userAgent, p.2.ip, now⟩)]
      cases s.codec.issuePair? w.now ⟨p.1.userId, p.1.userName, p.2.roleId, src.ids w.ids⟩ with
      | none => rfl
      | some tokens =>
        dsimp only
        by_cases hj : src.ids w.ids = ""
        · rw [if_pos hj, if_pos hj]
        rw [if_neg hj, if_neg hj, exec_end, rotated]
        have hold := (Service.live?_of_present h).2.1
        by_cases hc : src.ids w.ids = p.1.jti ∧ s.codec.refreshTtl ≤ 0
        · -- the session that was to be used up has been replaced by the new one, which is over already
          rw [if_pos hc, if_neg, bind_assoc, exec_withdraw, hc.1, SessionStore.remove_remove]
          · rfl
          · rw [opened, SessionStore.live?_enter, if_pos hc.1.symm, Expiring.live?, if_pos]
            · simp
            · simp only [Expiring.isExpired_iff]
              omega
        · rw [if_neg hc, if_pos]
          · rfl
          · rw [opened, SessionStore.live?_enter]
            split
            next hk =>
              have hpos : ¬s.codec.refreshTtl ≤ 0 := fun ht => hc ⟨hk.symm, ht⟩
              rw [Expiring.live?, if_neg]
              · rfl
              · simp only [Expiring.isExpired_iff]
                omega
            next hk => rw [SessionStore.live?_remove, if_neg hk, hold]; rfl

end Holdings
end SignIn
