import SignIn.Proofs.Passcode.Store
import SignIn.Proofs.Service.Outcomes.Accounts
import SignIn.Proofs.Service.Outcomes.Sessions
import SignIn.Proofs.Service.Script
import SignIn.Proofs.Session.Map

/-! Deployments that differ in what has expired alone. No call tells them apart. -/

namespace SignIn

namespace SessionStore

/-- The same sessions are live, now and later on. -/
def Agrees (now : Int) (x y : SessionStore) : Prop := ∀ t, now ≤ t → ∀ jti, x.live? t jti = y.live? t jti

namespace Agrees

variable {now : Int} {x y : SessionStore}

theorem now_eq (h : x.Agrees now y) (jti : String) : y.live? now jti = x.live? now jti :=
  (h now (Int.le_refl _) jti).symm

theorem of_le {t : Int} (h : x.Agrees now y) (ht : now ≤ t) : x.Agrees t y :=
  fun u hu => h u (Int.le_trans ht hu)

theorem remove (h : x.Agrees now y) (jti : String) : (x.remove jti).Agrees now (y.remove jti) := by
  intro t ht k
  rw [live?_remove, live?_remove, h t ht]

theorem enter (h : x.Agrees now y) (jti : String) (e : Expiring Session) :
    (x.enter jti e).Agrees now (y.enter jti e) := by
  intro t ht k
  rw [live?_enter, live?_enter, h t ht]

theorem list (h : x.Agrees now y) (hx : x.Indexed) (hy : y.Indexed) (user : UserId) :
    (x.list now user).2.Agrees now (y.list now user).2 := by
  intro t ht k
  rw [live?_list hx ht, live?_list hy ht, h t ht]

theorem purge (h : x.Agrees now y) (hx : x.Indexed) : (x.purge now).2.Agrees now y := by
  intro t ht k
  rw [live?_purge hx ht, h t ht]

/-- What is listed is what is live. -/
theorem upToTies_list (h : x.Agrees now y) (hx : x.Indexed) (hy : y.Indexed) (user : UserId) :
    UpToTies (·.createdAt) (x.list now user).1 (y.list now user).1 := by
  refine Session.upToTies_of_mem_iff (nodup_list hx) (nodup_list hy) ?_ (pairwise_list _ _ _) (pairwise_list _ _ _)
  intro z
  simp only [mem_list_iff hx, mem_list_iff hy, h.now_eq]

end Agrees
end SessionStore

namespace PasscodeStore

/-- The same codes are out, now and later on. -/
def Agrees (now : Int) (x y : PasscodeStore) : Prop := ∀ t, now ≤ t → ∀ c a, x.live? t c a = y.live? t c a

namespace Agrees

variable {now : Int} {x y : PasscodeStore}

theorem now_eq (h : x.Agrees now y) (c : Channel) (a : String) : y.live? now c a = x.live? now c a :=
  (h now (Int.le_refl _) c a).symm

theorem of_le {t : Int} (h : x.Agrees now y) (ht : now ≤ t) : x.Agrees t y :=
  fun u hu => h u (Int.le_trans ht hu)

theorem insert (h : x.Agrees now y) (k : Channel × String) (e : Expiring Passcode) :
    Agrees now (x.insert k e) (y.insert k e) := by
  intro t ht c a
  rw [live?_insert, live?_insert, h t ht]

theorem delete (h : x.Agrees now y) (c : Channel) (a : String) : (x.delete c a).Agrees now (y.delete c a) := by
  intro t ht c' a'
  rw [live?_delete, live?_delete, h t ht]

theorem purge (h : x.Agrees now y) (hx : x.keys.Nodup) : (x.purge now).2.Agrees now y := by
  intro t ht c a
  rw [live?_purge hx ht, h t ht]

end Agrees
end PasscodeStore

/-- The same call and answer, but that sessions of one instant may be listed in any order. -/
inductive Reply.Same : Reply → Reply → Prop
  | refl (r) : Same r r
  | listed {user} {l l' : List SessionView} : UpToTies (·.createdAt) l l' →
    Same ⟨.sessions user, some (.ok l)⟩ ⟨.sessions user, some (.ok l')⟩

namespace Holdings

/-- All is the same but for sessions and codes that have expired. -/
inductive Agrees (w : Holdings) : Holdings → Prop
  | intro {x y} : w.sessions.Agrees w.now x → w.codes.Agrees w.now y → Agrees w { w with sessions := x, codes := y }

/-- The same answer, and afterwards the same is held but for what has expired. -/
structure Concur {α : Type} (r r' : Option (Except ServiceError α) × Holdings) : Prop where
  answer : r.1 = r'.1
  held : r.2.Agrees r'.2

theorem Concur.exists_eq {α : Type} {r r' : Option (Except ServiceError α) × Holdings} (h : Concur r r') :
    ∃ o w w', r = (o, w) ∧ r' = (o, w') ∧ w.Agrees w' :=
  ⟨r.1, r.2, r'.2, rfl, Prod.ext h.answer.symm rfl, h.held⟩

variable {s : Service} {src : Sources} {w w' : Holdings}

namespace Agrees

theorem sendCode (h : w.Agrees w') (channel : Channel) (address : String) :
    Concur (exec src (s.sendCode channel address) w) (exec src (s.sendCode channel address) w') := by
  obtain ⟨hx, hy⟩ := h
  rw [exec_sendCode, exec_sendCode]
  dsimp only
  cases Text.filled? address with
  | none => exact ⟨rfl, .intro hx hy⟩
  | some a =>
    dsimp only
    cases w.accounts.byAddress? channel a with
    | none => exact ⟨rfl, .intro hx hy⟩
    | some u =>
      dsimp only
      cases Passcode.draw? (src.codes w.draws) w.now s.codeTtl channel a u.id with
      | none => exact ⟨rfl, .intro hx hy⟩
      | some p =>
        dsimp only
        rw [hy.now_eq]
        split
        next => exact ⟨rfl, .intro hx hy⟩
        next => exact ⟨rfl, .intro hx (hy.insert _ _)⟩

theorem register (h : w.Agrees w') (r : Registration) :
    Concur (exec src (s.register r) w) (exec src (s.register r) w') := by
  obtain @⟨x, y, hx, hy⟩ := h
  rw [exec_register, exec_register]
  cases r.form with
  | error e => exact ⟨rfl, .intro hx hy⟩
  | ok f =>
    dsimp only
    rw [exec_enroll, exec_enroll]
    dsimp only
    rcases w.accounts.create w.now (f.newUser (Password.hash (src.salts w.salts) r.password) s.defaultRole) with
      ⟨_ | (e | u), d⟩
    · exact ⟨rfl, .intro hx hy⟩
    · cases e <;> exact ⟨rfl, .intro hx hy⟩
    · dsimp only
      cases Directory.role? u.roleId with
      | none => exact ⟨rfl, .intro hx hy⟩
      | some role =>
        dsimp only
        -- both have made the same user, so what is left is to send the same code
        have hw : Agrees { w with salts := w.salts + 1, accounts := d }
            { w with salts := w.salts + 1, accounts := d, sessions := x, codes := y } := .intro hx hy
        have hsent : Concur (exec src (s.sendCode f.channel f.address) _) _ := hw.sendCode f.channel f.address
        obtain ⟨o, v, v', hv, hv', hagree⟩ := hsent.exists_eq
        rw [hv, hv']
        rcases o with _ | e | sent <;> exact ⟨rfl, hagree⟩

theorem confirm (h : w.Agrees w') (channel : Channel) (address code : String) :
    Concur (exec src (Service.confirm channel address code) w)
      (exec src (Service.confirm channel address code) w') := by
  obtain ⟨hx, hy⟩ := h
  rw [exec_confirm, exec_confirm]
  dsimp only
  cases Text.filled? address with
  | none => exact ⟨rfl, .intro hx hy⟩
  | some a => cases Text.filled? code with
    | none => exact ⟨rfl, .intro hx hy⟩
    | some c =>
      dsimp only
      rw [hy.now_eq]
      cases (w.codes.live? w.now channel a).filter (·.accepts c) with
      | none => exact ⟨rfl, .intro hx hy⟩
      | some p =>
        dsimp only
        cases w.accounts.byAddress? channel a with
        | none => exact ⟨rfl, .intro hx hy⟩
        | some u =>
          dsimp only
          cases w.accounts.users.get? u.id with
          | none => exact ⟨rfl, .intro hx hy⟩
          | some v => exact ⟨rfl, .intro hx (hy.delete _ _)⟩

theorem changePassword (h : w.Agrees w') (user : UserId) (old new : String) :
    Concur (exec src (Service.changePassword user old new) w) (exec src (Service.changePassword user old new) w') := by
  obtain ⟨hx, hy⟩ := h
  rw [exec_changePassword, exec_changePassword]
  dsimp only
  cases w.accounts.users.get? user with
  | none => exact ⟨rfl, .intro hx hy⟩
  | some u =>
    dsimp only
    split
    next => exact ⟨rfl, .intro hx hy⟩
    next => cases Password.validate new <;> exact ⟨rfl, .intro hx hy⟩

theorem authenticate (h : w.Agrees w') (token : String) :
    Concur (exec src (s.authenticate token) w) (exec src (s.authenticate token) w') := by
  obtain ⟨hx, hy⟩ := h
  rw [exec_authenticate, exec_authenticate]
  dsimp only
  cases s.codec.verify w.now .access token <;> exact ⟨rfl, .intro hx hy⟩

theorem profile (h : w.Agrees w') (token : String) :
    Concur (exec src (s.profile token) w) (exec src (s.profile token) w') := by
  obtain ⟨hx, hy⟩ := h
  rw [exec_profile, exec_profile]
  dsimp only
  cases s.codec.verify w.now .access token with
  | error e => exact ⟨rfl, .intro hx hy⟩
  | ok c =>
    dsimp only
    cases w.accounts.users.get? c.userId with
    | none => exact ⟨rfl, .intro hx hy⟩
    | some u =>
      dsimp only
      cases Directory.role? u.roleId <;> exact ⟨rfl, .intro hx hy⟩

theorem opened {x : SessionStore} {y : PasscodeStore} (hx : w.sessions.Agrees w.now x) (hy : w.codes.Agrees w.now y)
    (z : Session) (ttl : Int) :
    (w.opened src z ttl).Agrees (Holdings.opened src { w with sessions := x, codes := y } z ttl) :=
  .intro ((hx.remove _).enter _ _) hy

theorem login (h : w.Agrees w') (c : Credentials) (ip userAgent : String) :
    Concur (exec src (s.login c ip userAgent) w) (exec src (s.login c ip userAgent) w') := by
  obtain @⟨x, y, hx, hy⟩ := h
  rw [exec_login, exec_login]
  -- who is admitted depends on the accounts alone
  rw [show c.admitted { w with sessions := x, codes := y } = c.admitted w from rfl]
  rcases c.admitted w with e | ⟨u, role⟩
  · exact ⟨rfl, .intro hx hy⟩
  · dsimp only
    cases s.codec.issuePair? w.now ⟨u.id, u.name, u.roleId, src.ids w.ids⟩ with
    | none => exact ⟨rfl, .intro hx hy⟩
    | some tokens =>
      dsimp only
      split
      next => exact ⟨rfl, .intro hx hy⟩
      next => exact ⟨rfl, opened hx hy _ _⟩

theorem present_eq {x : SessionStore} (hx : w.sessions.Agrees w.now x) (y : PasscodeStore) (token : String) :
    s.present { w with sessions := x, codes := y } token = s.present w token := by
  unfold Service.present
  cases s.codec.verify w.now .refresh token with
  | error e => rfl
  | ok c =>
    dsimp only
    rw [hx.now_eq]

theorem logout (h : w.Agrees w') (token : String) :
    Concur (exec src (s.logout token) w) (exec src (s.logout token) w') := by
  obtain ⟨hx, hy⟩ := h
  rw [exec_logout, exec_logout, present_eq hx]
  cases s.present w token with
  | error e => exact ⟨rfl, .intro hx hy⟩
  | ok p => exact ⟨rfl, .intro (hx.remove _) hy⟩

theorem refresh (h : w.Agrees w') (token : String) :
    Concur (exec src (s.refresh token) w) (exec src (s.refresh token) w') := by
  obtain @⟨x, y, hx, hy⟩ := h
  rw [exec_refresh, exec_refresh, present_eq hx]
  rcases s.present w token with e | ⟨c, old⟩
  · exact ⟨rfl, .intro hx hy⟩
  · dsimp only
    cases Directory.role? old.roleId with
    | none => exact ⟨rfl, .intro hx hy⟩
    | some role =>
      dsimp only
      cases s.codec.issuePair? w.now ⟨c.userId, c.userName, old.roleId, src.ids w.ids⟩ with
      | none => exact ⟨rfl, .intro hx hy⟩
      | some tokens =>
        have rotated : (w.rotated src s old c.jti).Agrees
            (Holdings.rotated src { w with sessions := x, codes := y } s old c.jti) :=
          .intro (((hx.remove _).enter _ _).remove _) hy
        dsimp only
        split
        next => exact ⟨rfl, .intro hx hy⟩
        next =>
          split
          next => exact ⟨rfl, rotated⟩
          next => exact ⟨rfl, rotated⟩

theorem revoke (h : w.Agrees w') (caller : UserId) (jti : String) :
    Concur (exec src (Service.revoke caller jti) w) (exec src (Service.revoke caller jti) w') := by
  obtain ⟨hx, hy⟩ := h
  rw [exec_revoke, exec_revoke]
  dsimp only
  rw [hx.now_eq]
  cases w.sessions.live? w.now jti with
  | none => exact ⟨rfl, .intro hx hy⟩
  | some z =>
    dsimp only
    split
    next => exact ⟨rfl, .intro (hx.remove _) hy⟩
    next => exact ⟨rfl, .intro hx hy⟩

theorem sessionsOf (h : w.Agrees w') (hi : w.sessions.Indexed) (hi' : w'.sessions.Indexed) (user : UserId) :
    Reply.Same ⟨.sessions user, (exec src (Service.sessionsOf user) w).1⟩
        ⟨.sessions user, (exec src (Service.sessionsOf user) w').1⟩ ∧
      (exec src (Service.sessionsOf user) w).2.Agrees (exec src (Service.sessionsOf user) w').2 := by
  obtain ⟨hx, hy⟩ := h
  rw [exec_sessionsOf, exec_sessionsOf]
  dsimp only
  cases w.accounts.users.get? user with
  | none => exact ⟨.refl _, .intro hx hy⟩
  | some u => exact ⟨.listed ((hx.upToTies_list hi hi' user).map (view u)), .intro (hx.list hi hi' user) hy⟩

theorem call (h : w.Agrees w') (hi : w.sessions.Indexed) (hi' : w'.sessions.Indexed) (c : Call) :
    Reply.Same ⟨c, (exec src (c.operation s) w).1⟩ ⟨c, (exec src (c.operation s) w').1⟩ ∧
      (exec src (c.operation s) w).2.Agrees (exec src (c.operation s) w').2 := by
  have concur {c : Call} (hc : Concur (exec src (c.operation s) w) (exec src (c.operation s) w')) :
      Reply.Same ⟨c, (exec src (c.operation s) w).1⟩ ⟨c, (exec src (c.operation s) w').1⟩ ∧
        (exec src (c.operation s) w).2.Agrees (exec src (c.operation s) w').2 :=
    ⟨hc.answer ▸ .refl _, hc.held⟩
  cases c with
  | register r => exact concur (h.register r)
  | login c ip userAgent => exact concur (h.login c ip userAgent)
  | refresh token => exact concur (h.refresh token)
  | logout token => exact concur (h.logout token)
  | sessions user => exact h.sessionsOf hi hi' user
  | revoke caller jti => exact concur (h.revoke caller jti)
  | sendCode channel address => exact concur (h.sendCode channel address)
  | confirm channel address code => exact concur (h.confirm channel address code)
  | changePassword user old new => exact concur (h.changePassword user old new)
  | authenticate token => exact concur (h.authenticate token)
  | profile token => exact concur (h.profile token)

theorem swept (h : w.Agrees w') (hi : w.sessions.Indexed) (hc : w.codes.keys.Nodup) :
    Agrees { w with sessions := (w.sessions.purge w.now).2, codes := (PasscodeStore.purge w.codes w.now).2 } w' := by
  obtain ⟨hx, hy⟩ := h
  exact .intro (hx.purge hi) (hy.purge hc)

theorem settled (h : w.Agrees w') : Agrees { w with outbox := [] } { w' with outbox := [] } := by
  obtain ⟨hx, hy⟩ := h
  exact .intro hx hy

theorem moved (h : w.Agrees w') {d : Int} (hd : 0 ≤ d) :
    Agrees { w with now := w.now + d } { w' with now := w'.now + d } := by
  obtain ⟨hx, hy⟩ := h
  exact .intro (hx.of_le (by dsimp only; omega)) (hy.of_le (by dsimp only; omega))

end Agrees
end Holdings
end SignIn
