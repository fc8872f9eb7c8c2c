import SignIn.Proofs.Account.Directory
import SignIn.Proofs.Clock
import SignIn.Proofs.Service.Questions

/-! What the operations on accounts and codes answer and leave behind. -/

namespace SignIn

open Operation (say refuse require repositoryFailure storeFailure absentUser unknownUser absentSession)

variable {β : Type} {src : Sources} {w : Holdings}

theorem Passcode.draw?_eq_some_iff {n : Draw} {now ttl : Int} {channel : Channel} {address : String}
    {user : UserId} {p : Passcode} :
    draw? n now ttl channel address user = some p ↔
      Instant.InCalendar (now + ttl) ∧ p = ⟨codeText n, channel, address, user, now, now + ttl⟩ := by
  unfold draw? Instant.after? Instant.InCalendar
  by_cases h : Instant.earliest ≤ now + ttl ∧ now + ttl ≤ Instant.latest
  · simp [h, eq_comm]
  · simp [h]

/-- What is held once a code is out. -/
def Holdings.sent (w : Holdings) (s : Service) (p : Passcode) : Holdings :=
  { w with
    draws := w.draws + 1
    codes := w.codes.insert (p.channel, p.address) ⟨p, p.expiresAt⟩
    outbox := w.outbox ++ [.ofCode s.name p.channel p.address p.code] }

/-- What is held once the code for an address of a user is used up. -/
def Holdings.confirmed (w : Holdings) (user : UserId) (channel : Channel) (address : String) : Holdings :=
  { w with
    accounts := (w.accounts.change user (·.verify channel w.now)).2
    codes := w.codes.delete channel address }

/-- A registration in order. -/
structure Form where
  name : String
  email : Option String
  phone : Option String
  channel : Channel
  address : String

def Registration.form (r : Registration) : Except ServiceError Form := do
  let some name := Text.filled? r.name | .error (.invalid "name is required")
  let email := r.email.bind Text.filled?
  let phone := r.phone.bind Text.filled?
  if email = none ∧ phone = none then .error (.invalid "phone number or email is required")
  let channel ← Channel.ofName (Text.trim r.confirmBy)
  let some address := (match channel with | .phone => phone | .email => email)
    | .error (.invalid s!"{channel.label} is required to confirm by {channel.name}")
  Password.validate r.password
  return ⟨name, email, phone, channel, address⟩

def Form.reached (f : Form) : Channel → Option String
  | .phone => f.phone
  | .email => f.email

theorem Password.minLength_le_of_validate {password : String} {x : Unit} (h : validate password = .ok x) :
    minLength ≤ password.length := by
  unfold validate at h
  split at h
  next => cases h
  next hl => exact Nat.not_lt.1 hl

def Registration.address? (r : Registration) : Channel → Option String
  | .phone => r.phone
  | .email => r.email

/-- What it takes for a registration to be in order. -/
structure Registration.Gives (r : Registration) (f : Form) : Prop where
  name : Text.filled? r.name = some f.name
  reached : ∀ c, f.reached c = (r.address? c).bind Text.filled?
  channel : Channel.ofName (Text.trim r.confirmBy) = .ok f.channel
  address : f.reached f.channel = some f.address
  password : Password.minLength ≤ r.password.length

theorem Registration.gives_of_form {r : Registration} {f : Form} (h : r.form = .ok f) : r.Gives f := by
  unfold form at h
  cases hn : Text.filled? r.name with
  | none =>
    rw [hn] at h
    cases h
  | some name =>
    rw [hn] at h
    dsimp only at h
    split at h
    next => cases h
    next =>
      cases hc : Channel.ofName (Text.trim r.confirmBy) with
      | error e =>
        rw [hc] at h
        cases h
      | ok channel =>
        rw [hc] at h
        dsimp only [bind, Except.bind] at h
        split at h
        next address ha =>
          cases hp : Password.validate r.password with
          | error e =>
            rw [hp] at h
            cases h
          | ok x =>
            rw [hp] at h
            cases h
            refine ⟨hn, fun c => by cases c <;> rfl, hc, ?_, Password.minLength_le_of_validate hp⟩
            cases channel <;> exact ha
        next => cases h

def Form.newUser (f : Form) (hash : String) (role : RoleId) : NewUser := ⟨f.name, f.phone, f.email, hash, role⟩

theorem Form.address_newUser (f : Form) (hash : String) (role : RoleId) (c : Channel) :
    (f.newUser hash role).address c = f.reached c := by
  cases c <;> rfl

/-- What is left to do for a registration in order. -/
def Service.enroll (s : Service) (f : Form) (password : String) : Operation Registered := do
  let passwordHash := Password.hash (← Operation.ask .drawSalt) password
  say .info s!"Registering user {f.name} confirming by {f.channel.name}"
  let user ← Operation.accounts (.create (f.newUser passwordHash s.defaultRole)) fun
    | .uniqueViolation constraint => do
      say .warn s!"Registration rejected, address taken ({constraint})"
      refuse (.duplicateAddress constraint)
    | e => repositoryFailure "register" e
  let role ← Operation.accounts (.role user.roleId) (repositoryFailure "register")
  let sent ← s.sendCode f.channel f.address
  say .info s!"Registered user {user.name} with id {user.id}"
  return ⟨user.id, user.name, role.name, sent.expiresAt⟩

theorem Service.register_eq (s : Service) (r : Registration) :
    s.register r =
      match r.form with
      | .error e => refuse e
      | .ok f => s.enroll f r.password := by
  unfold register Registration.form
  cases Text.filled? r.name with
  | none => rfl
  | some name =>
    by_cases he : r.email.bind Text.filled? = none ∧ r.phone.bind Text.filled? = none
    · simp only [he, and_self, if_true]
      rfl
    simp only [he, if_false]
    cases Channel.ofName (Text.trim r.confirmBy) with
    | error e => rfl
    | ok channel => cases channel with
      | phone => cases r.phone.bind Text.filled? with
        | none => rfl
        | some phone => cases Password.validate r.password <;> rfl
      | email => cases r.email.bind Text.filled? with
        | none => rfl
        | some email => cases Password.validate r.password <;> rfl

/-- The user that a registration makes. -/
def Holdings.newcomer (src : Sources) (w : Holdings) (s : Service) (f : Form) (password : String) : User :=
  (f.newUser (Password.hash (src.salts w.salts) password) s.defaultRole).toUser w.accounts.nextId w.now

def Holdings.enrolled (src : Sources) (w : Holdings) (s : Service) (f : Form) (password : String) : Holdings :=
  { w with
    salts := w.salts + 1
    accounts := w.accounts.grown w.now (f.newUser (Password.hash (src.salts w.salts) password) s.defaultRole) }

theorem Holdings.address_newcomer (src : Sources) (w : Holdings) (s : Service) (f : Form) (password : String)
    (c : Channel) : (w.newcomer src s f password).address c = f.reached c := by
  rw [newcomer, NewUser.address_toUser, Form.address_newUser]

theorem Holdings.get?_enrolled (src : Sources) (w : Holdings) (s : Service) (f : Form) (password : String)
    (id : UserId) :
    (w.enrolled src s f password).accounts.users.get? id =
      if id = w.accounts.nextId then some (w.newcomer src s f password) else w.accounts.users.get? id :=
  Directory.get?_grown _ _ _ _

namespace Holdings

theorem exec_markVerified (id : UserId) (c : Channel) (refused : RepositoryError → Operation Unit)
    (f : Unit → Operation β) :
    exec src (Operation.accounts (.markVerified id c) refused >>= f) w =
      match w.accounts.users.get? id with
      | some _ => exec src (f ()) { w with accounts := (w.accounts.change id (·.verify c w.now)).2 }
      | none => exec src (refused .notFound >>= f) w := by
  rw [exec_accounts, Directory.answer]
  unfold Directory.change
  cases w.accounts.users.get? id <;> rfl

theorem exec_setPassword (id : UserId) (h : String) (refused : RepositoryError → Operation Unit)
    (f : Unit → Operation β) :
    exec src (Operation.accounts (.setPassword id h) refused >>= f) w =
      match w.accounts.users.get? id with
      | some _ => exec src (f ())
        { w with accounts := (w.accounts.change id fun u => { u with passwordHash := h, updatedAt := w.now }).2 }
      | none => exec src (refused .notFound >>= f) w := by
  rw [exec_accounts, Directory.answer]
  unfold Directory.change
  cases w.accounts.users.get? id <;> rfl

theorem exec_sendCode (s : Service) (channel : Channel) (address : String) :
    exec src (s.sendCode channel address) w =
      match Text.filled? address with
      | none => (some (.error (.invalid s!"{channel.label} is required")), w)
      | some a => match w.accounts.byAddress? channel a with
        | none => (some (.error .authenticationFailed), w)
        | some u => match Passcode.draw? (src.codes w.draws) w.now s.codeTtl channel a u.id with
          | none => (none, { w with draws := w.draws + 1 })
          | some p =>
            if (w.codes.live? w.now channel a).isSome then
              (some (.error .alreadyOutstanding), { w with draws := w.draws + 1 })
            else (some (.ok ⟨p.expiresAt⟩), w.sent s p) := by
  unfold Service.sendCode
  cases Text.filled? address with
  | none => rfl
  | some a =>
    dsimp only
    rw [exec_byAddress]
    cases w.accounts.byAddress? channel a with
    | none => rfl
    | some u =>
      dsimp only
      rw [exec_clock, exec_drawCode, exec_require]
      cases h : Passcode.draw? (src.codes w.draws) w.now s.codeTtl channel a u.id with
      | none => rfl
      | some p =>
        obtain ⟨hc, rfl⟩ := Passcode.draw?_eq_some_iff.1 h
        dsimp only
        rw [exec_codes, PasscodeStore.answer, PasscodeStore.save, Expiring.until?, Instant.after?_of_inCalendar hc]
        dsimp only
        cases w.codes.live? w.now channel a with
        | some q => rfl
        | none => rfl

theorem exec_confirm (channel : Channel) (address code : String) :
    exec src (Service.confirm channel address code) w =
      match Text.filled? address, Text.filled? code with
      | some a, some c => match (w.codes.live? w.now channel a).filter (·.accepts c) with
        | none => (some (.error .authenticationFailed), w)
        | some _ => match w.accounts.byAddress? channel a with
          | none => (some (.error .authenticationFailed), w)
          | some u => match w.accounts.users.get? u.id with
            | none => (some (.error .userNotFound), w)
            | some _ => (some (.ok ()), w.confirmed u.id channel a)
      | _, _ => (some (.error (.invalid s!"{channel.label} and code are required")), w) := by
  unfold Service.confirm
  cases Text.filled? address with
  | none => rfl
  | some a => cases Text.filled? code with
    | none => rfl
    | some c =>
      dsimp only
      rw [exec_codes, PasscodeStore.answer, PasscodeStore.get]
      cases w.codes.live? w.now channel a with
      | none => rfl
      | some p =>
        rw [Option.filter_some]
        dsimp only
        cases p.accepts c with
        | false => rfl
        | true =>
          simp only [Bool.not_true, Bool.false_eq_true, if_false, if_true]
          rw [exec_byAddress]
          dsimp only
          cases w.accounts.byAddress? channel a with
          | none => rfl
          | some u =>
            dsimp only
            rw [exec_markVerified]
            dsimp only
            cases w.accounts.users.get? u.id with
            | none => rfl
            | some v => rfl

theorem exec_changePassword (user : UserId) (old new : String) :
    exec src (Service.changePassword user old new) w =
      match w.accounts.users.get? user with
      | none => (some (.error .userNotFound), w)
      | some u =>
        if Password.verify old u.passwordHash = false then (some (.error .oldPasswordMismatch), w)
        else match Password.validate new with
          | .error e => (some (.error e), w)
          | .ok () => (some (.ok ()), { w with
              salts := w.salts + 1
              accounts := (w.accounts.change user fun u =>
                { u with passwordHash := Password.hash (src.salts w.salts) new, updatedAt := w.now }).2 }) := by
  rw [Service.changePassword, exec_byId]
  cases h : w.accounts.users.get? user with
  | none => rfl
  | some u =>
    dsimp only
    cases Password.verify old u.passwordHash with
    | false => rfl
    | true =>
      simp only [Bool.not_true, Bool.true_eq_false, Bool.false_eq_true, if_false]
      rw [exec_liftExcept]
      cases Password.validate new with
      | error e => rfl
      | ok _ =>
        dsimp only
        rw [exec_drawSalt, exec_setPassword, h]
        rfl

theorem exec_authenticate (s : Service) (token : String) :
    exec src (s.authenticate token) w =
      match s.codec.verify w.now .access token with
      | .ok c => (some (.ok c.toIdentity), w)
      | .error _ => (some (.error .authenticationFailed), w) := by
  rw [Service.authenticate, exec_verified]
  cases s.codec.verify w.now .access token <;> rfl

theorem exec_profile (s : Service) (token : String) :
    exec src (s.profile token) w =
      match s.codec.verify w.now .access token with
      | .error _ => (some (.error .authenticationFailed), w)
      | .ok c => match w.accounts.users.get? c.userId with
        | none => (some (.error .userNotFound), w)
        | some u => match Directory.role? u.roleId with
          | none => (some (.error (.internal RepositoryError.notFound.message)), w)
          | some role => (some (.ok ⟨u.id, u.name, u.email, u.phone, role.name⟩), w) := by
  rw [Service.profile, exec_bind, exec_authenticate]
  cases s.codec.verify w.now .access token with
  | error e => rfl
  | ok c =>
    dsimp only
    rw [exec_byId]
    cases w.accounts.users.get? c.userId with
    | none => rfl
    | some u =>
      dsimp only
      rw [exec_role]
      cases Directory.role? u.roleId <;> rfl

theorem exec_enroll (s : Service) (f : Form) (password : String) :
    exec src (s.enroll f password) w =
      match w.accounts.create w.now (f.newUser (Password.hash (src.salts w.salts) password) s.defaultRole) with
      | (none, d) => (none, { w with salts := w.salts + 1, accounts := d })
      | (some (.error (.uniqueViolation c)), d) =>
        (some (.error (.duplicateAddress c)), { w with salts := w.salts + 1, accounts := d })
      | (some (.error e), d) => (some (.error (.internal e.message)), { w with salts := w.salts + 1, accounts := d })
      | (some (.ok user), d) => match Directory.role? user.roleId with
        | none =>
          (some (.error (.internal RepositoryError.notFound.message)), { w with salts := w.salts + 1, accounts := d })
        | some role =>
          match exec src (s.sendCode f.channel f.address) { w with salts := w.salts + 1, accounts := d } with
          | (some (.ok sent), w) => (some (.ok ⟨user.id, user.name, role.name, sent.expiresAt⟩), w)
          | (some (.error e), w) => (some (.error e), w)
          | (none, w) => (none, w) := by
  rw [Service.enroll, exec_drawSalt, exec_say, exec_accounts, Directory.answer]
  rcases w.accounts.create w.now (f.newUser (Password.hash (src.salts w.salts) password) s.defaultRole) with
    ⟨_ | (e | user), d⟩
  · rfl
  · cases e <;> rfl
  · dsimp only
    rw [exec_role]
    cases Directory.role? user.roleId with
    | none => rfl
    | some role =>
      dsimp only
      rw [exec_bind]
      rcases exec src (s.sendCode f.channel f.address) { w with salts := w.salts + 1, accounts := d } with
        ⟨_ | (e | sent), w⟩ <;> rfl

theorem exec_enroll_of_create {s : Service} {f : Form} {password : String} {role : Role}
    (hc : w.accounts.create w.now (f.newUser (Password.hash (src.salts w.salts) password) s.defaultRole) =
      (some (.ok (w.newcomer src s f password)), (w.enrolled src s f password).accounts))
    (hr : Directory.role? s.defaultRole = some role) :
    exec src (s.enroll f password) w =
      match exec src (s.sendCode f.channel f.address) (w.enrolled src s f password) with
      | (some (.ok sent), w') => (some (.ok ⟨w.accounts.nextId, f.name, role.name, sent.expiresAt⟩), w')
      | (some (.error e), w') => (some (.error e), w')
      | (none, w') => (none, w') := by
  rw [exec_enroll, hc]
  dsimp only [newcomer, NewUser.toUser, Form.newUser]
  rw [hr]
  rfl

theorem exec_register (s : Service) (r : Registration) :
    exec src (s.register r) w =
      match r.form with
      | .error e => (some (.error e), w)
      | .ok f => exec src (s.enroll f r.password) w := by
  rw [Service.register_eq]
  cases r.form <;> rfl

end Holdings
end SignIn
