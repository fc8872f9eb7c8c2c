import SignIn.Proofs.Account.Directory
import SignIn.Proofs.Service.Outcomes.Accounts
import SignIn.Proofs.Service.Outcomes.Sessions

/-! All that a call can do. -/

namespace SignIn

namespace Holdings

/-- Some of what is minted is used up. -/
def spend (w : Holdings) (ids draws salts : Nat) : Holdings :=
  { w with ids := w.ids + ids, draws := w.draws + draws, salts := w.salts + salts }

def passwordChanged (src : Sources) (w : Holdings) (user : UserId) (password : String) : Holdings :=
  { w with
    salts := w.salts + 1
    accounts := (w.accounts.change user fun u =>
      { u with passwordHash := Password.hash (src.salts w.salts) password, updatedAt := w.now }).2 }

/-- The code `p` can be sent. -/
structure Sends (s : Service) (src : Sources) (w : Holdings) (channel : Channel) (address : String) (p : Passcode) :
    Prop where
  filled : Text.filled? address = some p.address
  owner : ∃ u, w.accounts.byAddress? channel p.address = some u ∧ p.userId = u.id
  calendar : Instant.InCalendar (w.now + s.codeTtl)
  free : w.codes.live? w.now channel p.address = none
  code : p.code = Passcode.codeText (src.codes w.draws)
  channel_eq : p.channel = channel
  expiresAt : p.expiresAt = w.now + s.codeTtl

/-- Why no code can be sent. -/
inductive Unsent (s : Service) (w : Holdings) (channel : Channel) (address : String) : Prop
  | blank : Text.filled? address = none → Unsent s w channel address
  | unowned {a} : Text.filled? address = some a → w.accounts.byAddress? channel a = none → Unsent s w channel address
  | calendar : ¬Instant.InCalendar (w.now + s.codeTtl) → Unsent s w channel address
  | outstanding {a} : Text.filled? address = some a → (w.codes.live? w.now channel a).isSome →
    Unsent s w channel address

end Holdings

/-- The directory takes in whoever is reached as nobody else is. -/
structure Form.Admissible (f : Form) (s : Service) (d : Directory) : Prop where
  role : (Directory.role? s.defaultRole).isSome
  number : d.nextId ≠ Int64.maxValue
  free : ∀ id v c a, (id, v) ∈ d.users → f.reached c = some a → v.address c ≠ some a

/-- What a call answers, and what is held afterwards. -/
inductive Effect (s : Service) (src : Sources) (w : Holdings) :
    (c : Call) → Option (Except ServiceError c.Answer) → Holdings → Prop
  | halted {c} (i d n : Nat) : Effect s src w c none (w.spend i d n)
  | refused {c} (e : ServiceError) (i d n : Nat) : Effect s src w c (some (.error e)) (w.spend i d n)
  | stranded {r f answer} (d : Nat) : r.form = .ok f → f.Admissible s w.accounts →
    (w.enrolled src s f r.password).Unsent s f.channel f.address → (∀ a, answer ≠ some (.ok a)) →
    Effect s src w (.register r) answer ((w.enrolled src s f r.password).spend 0 d 0)
  | registered {r f role p} : r.form = .ok f → f.Admissible s w.accounts →
    Directory.role? s.defaultRole = some role →
    (w.enrolled src s f r.password).Sends s src f.channel f.address p →
    Effect s src w (.register r) (some (.ok ⟨w.accounts.nextId, f.name, role.name, w.now + s.codeTtl⟩))
      ((w.enrolled src s f r.password).sent s p)
  | sent {channel address p} : w.Sends s src channel address p →
    Effect s src w (.sendCode channel address) (some (.ok ⟨w.now + s.codeTtl⟩)) (w.sent s p)
  | confirmed {channel address code a c p u} : Text.filled? address = some a → Text.filled? code = some c →
    w.codes.live? w.now channel a = some p → p.code = c → w.accounts.byAddress? channel a = some u →
    Effect s src w (.confirm channel address code) (some (.ok ())) (w.confirmed u.id channel a)
  | passwordChanged {user old new} : (w.accounts.users.get? user).isSome → Password.minLength ≤ new.length →
    Effect s src w (.changePassword user old new) (some (.ok ())) (w.passwordChanged src user new)
  | loggedIn {c ip userAgent u role tokens} : c.admitted w = .ok (u, role) →
    s.codec.issuePair? w.now ⟨u.id, u.name, u.roleId, src.ids w.ids⟩ = some tokens → src.ids w.ids ≠ "" →
    Effect s src w (.login c ip userAgent) (some (.ok ⟨u.id, u.name, u.roleId, role.name, tokens⟩))
      (w.loggedIn src s u userAgent ip)
  | refreshed {token c old role tokens} : s.present w token = .ok (c, old) → Directory.role? old.roleId = some role →
    s.codec.issuePair? w.now ⟨c.userId, c.userName, old.roleId, src.ids w.ids⟩ = some tokens → src.ids w.ids ≠ "" →
    Effect s src w (.refresh token) (some (.ok ⟨c.userId, c.userName, old.roleId, role.name, tokens⟩))
      (w.rotated src s old c.jti)
  | collided {token c old} : s.present w token = .ok (c, old) → src.ids w.ids = c.jti →
    Effect s src w (.refresh token) (some (.error .sessionNotFound)) (w.rotated src s old c.jti)
  | loggedOut {token c old} : s.present w token = .ok (c, old) →
    Effect s src w (.logout token) (some (.ok ())) { w with sessions := w.sessions.remove c.jti }
  | revoked {caller jti x} : w.sessions.live? w.now jti = some x → x.userId = caller →
    Effect s src w (.revoke caller jti) (some (.ok ())) { w with sessions := w.sessions.remove jti }
  | listed {user u} : w.accounts.users.get? user = some u →
    Effect s src w (.sessions user) (some (.ok ((w.sessions.list w.now user).1.map (Holdings.view u))))
      { w with sessions := (w.sessions.list w.now user).2 }
  | authenticated {token c} : s.codec.verify w.now .access token = .ok c →
    Effect s src w (.authenticate token) (some (.ok c.toIdentity)) w
  | profiled {token p} : Effect s src w (.profile token) (some (.ok p)) w

namespace Effect

open Holdings

variable (s : Service) (src : Sources) (w : Holdings)

theorem login (c : Credentials) (ip userAgent : String) :
    Effect s src w (.login c ip userAgent) (exec src (s.login c ip userAgent) w).1
      (exec src (s.login c ip userAgent) w).2 := by
  rw [exec_login]
  split
  next e h => exact .refused e 0 0 0
  next u role h =>
    split
    next => exact .halted 1 0 0
    next tokens ht =>
      split
      next => exact .refused _ 1 0 0
      next hj => exact .loggedIn h ht hj

theorem refresh (token : String) :
    Effect s src w (.refresh token) (exec src (s.refresh token) w).1 (exec src (s.refresh token) w).2 := by
  rw [exec_refresh]
  split
  next e h => exact .refused e 0 0 0
  next c old h =>
    split
    next => exact .refused _ 0 0 0
    next role hr =>
      split
      next => exact .halted 1 0 0
      next tokens ht =>
        split
        next => exact .refused _ 1 0 0
        next hj =>
          split
          next hc => exact .collided h hc.1
          next => exact .refreshed h hr ht hj

theorem logout (token : String) :
    Effect s src w (.logout token) (exec src (s.logout token) w).1 (exec src (s.logout token) w).2 := by
  rw [exec_logout]
  split
  next c old h => exact .loggedOut h
  next e h => exact .refused e 0 0 0

theorem revoke (caller : UserId) (jti : String) :
    Effect s src w (.revoke caller jti) (exec src (Service.revoke caller jti) w).1
      (exec src (Service.revoke caller jti) w).2 := by
  rw [exec_revoke]
  split
  next => exact .refused _ 0 0 0
  next x h =>
    split
    next hu => exact .revoked h hu
    next => exact .refused _ 0 0 0

theorem sessions (user : UserId) :
    Effect s src w (.sessions user) (exec src (Service.sessionsOf user) w).1
      (exec src (Service.sessionsOf user) w).2 := by
  rw [exec_sessionsOf]
  split
  next => exact .refused _ 0 0 0
  next u h => exact .listed h

theorem confirm (channel : Channel) (address code : String) :
    Effect s src w (.confirm channel address code) (exec src (Service.confirm channel address code) w).1
      (exec src (Service.confirm channel address code) w).2 := by
  rw [exec_confirm]
  split
  next a c ha hc =>
    split
    next => exact .refused _ 0 0 0
    next p hp =>
      obtain ⟨hl, hm⟩ := Option.filter_eq_some_iff.1 hp
      split
      next => exact .refused _ 0 0 0
      next u hu =>
        split
        next => exact .refused _ 0 0 0
        next => exact .confirmed ha hc hl (of_decide_eq_true hm) hu
  next => exact .refused _ 0 0 0

theorem changePassword (user : UserId) (old new : String) :
    Effect s src w (.changePassword user old new) (exec src (Service.changePassword user old new) w).1
      (exec src (Service.changePassword user old new) w).2 := by
  rw [exec_changePassword]
  split
  next => exact .refused _ 0 0 0
  next u h =>
    split
    next => exact .refused _ 0 0 0
    next =>
      split
      next => exact .refused _ 0 0 0
      next hv => exact .passwordChanged (Option.isSome_of_eq_some h) (Password.minLength_le_of_validate hv)

theorem authenticate (token : String) :
    Effect s src w (.authenticate token) (exec src (s.authenticate token) w).1
      (exec src (s.authenticate token) w).2 := by
  rw [exec_authenticate]
  split
  next c h => exact .authenticated h
  next => exact .refused _ 0 0 0

theorem profile (token : String) :
    Effect s src w (.profile token) (exec src (s.profile token) w).1 (exec src (s.profile token) w).2 := by
  rw [exec_profile]
  split
  next => exact .refused _ 0 0 0
  next =>
    split
    next => exact .refused _ 0 0 0
    next =>
      split
      next => exact .refused _ 0 0 0
      next => exact .profiled

/-- A code is sent, or it cannot be. -/
theorem sendCode_cases (channel : Channel) (address : String) :
    (∃ p, w.Sends s src channel address p ∧
      exec src (s.sendCode channel address) w = (some (.ok ⟨w.now + s.codeTtl⟩), w.sent s p)) ∨
    w.Unsent s channel address ∧
      ((∃ e d, exec src (s.sendCode channel address) w = (some (.error e), w.spend 0 d 0)) ∨
        ∃ d, exec src (s.sendCode channel address) w = (none, w.spend 0 d 0)) := by
  rw [exec_sendCode]
  split
  next ha => exact .inr ⟨.blank ha, .inl ⟨_, 0, rfl⟩⟩
  next a ha =>
    split
    next hu => exact .inr ⟨.unowned ha hu, .inl ⟨_, 0, rfl⟩⟩
    next u hu =>
      split
      next hp =>
        refine .inr ⟨.calendar fun hc => ?_, .inr ⟨1, rfl⟩⟩
        rw [Passcode.draw?_eq_some_iff.2 ⟨hc, rfl⟩] at hp
        cases hp
      next p hp =>
        obtain ⟨hc, rfl⟩ := Passcode.draw?_eq_some_iff.1 hp
        split
        next hl => exact .inr ⟨.outstanding ha hl, .inl ⟨_, 1, rfl⟩⟩
        next hl =>
          have free : w.codes.live? w.now channel a = none := by simpa using hl
          refine .inl ⟨⟨Passcode.codeText (src.codes w.draws), channel, a, u.id, w.now, w.now + s.codeTtl⟩, ?_, rfl⟩
          exact ⟨ha, ⟨u, hu, rfl⟩, hc, free, rfl, rfl, rfl⟩

theorem sendCode (channel : Channel) (address : String) :
    Effect s src w (.sendCode channel address) (exec src (s.sendCode channel address) w).1
      (exec src (s.sendCode channel address) w).2 := by
  obtain ⟨p, hp, h⟩ | ⟨-, ⟨e, d, h⟩ | ⟨d, h⟩⟩ := sendCode_cases s src w channel address
  · rw [h]
    exact .sent hp
  · rw [h]
    exact .refused e 0 d 0
  · rw [h]
    exact .halted 0 d 0

theorem register (r : Registration) :
    Effect s src w (.register r) (exec src (s.register r) w).1 (exec src (s.register r) w).2 := by
  rw [exec_register]
  split
  next e h => exact .refused e 0 0 0
  next f h =>
    obtain ⟨e, hc⟩ | hc | ⟨hc, hr, hn, hu⟩ := Directory.create_cases w.accounts w.now
      (f.newUser (Password.hash (src.salts w.salts) r.password) s.defaultRole)
    · rw [exec_enroll, hc]
      cases e <;> exact .refused _ 0 0 1
    · rw [exec_enroll, hc]
      exact .halted 0 0 1
    · have hf : f.Admissible s w.accounts :=
        ⟨hr, hn, fun id v c a hv ha => hu id v c a hv ((f.address_newUser _ _ c).trans ha)⟩
      obtain ⟨role, hrole⟩ := Option.isSome_iff_exists.1 hr
      rw [exec_enroll_of_create hc hrole]
      obtain ⟨p, hp, hx⟩ | ⟨hx, ⟨e, d, hy⟩ | ⟨d, hy⟩⟩ :=
        sendCode_cases s src (w.enrolled src s f r.password) f.channel f.address
      · rw [hx]
        exact .registered h hf hrole hp
      · rw [hy]
        exact .stranded d h hf hx (by simp)
      · rw [hy]
        exact .stranded d h hf hx (by simp)

end Effect

theorem effect_exec (s : Service) (src : Sources) (c : Call) (w : Holdings) :
    Effect s src w c (Holdings.exec src (c.operation s) w).1 (Holdings.exec src (c.operation s) w).2 := by
  cases c with
  | register r => exact .register s src w r
  | login c ip userAgent => exact .login s src w c ip userAgent
  | refresh token => exact .refresh s src w token
  | logout token => exact .logout s src w token
  | sessions user => exact .sessions s src w user
  | revoke caller jti => exact .revoke s src w caller jti
  | sendCode channel address => exact .sendCode s src w channel address
  | confirm channel address code => exact .confirm s src w channel address code
  | changePassword user old new => exact .changePassword s src w user old new
  | authenticate token => exact .authenticate s src w token
  | profile token => exact .profile s src w token

theorem Step.effect (s : Service) (src : Sources) (r : Step) :
    Effect s src r.before.holdings r.call (r.answer s src) (r.after s src).holdings := by
  rw [answer, after, World.perform_fst, World.holdings_perform]
  exact effect_exec s src r.call r.before.holdings

end SignIn
