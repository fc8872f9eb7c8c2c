import SignIn.Service.Answers
import SignIn.Service.Query
import SignIn.Settings
import SignIn.Text.Blank

/-! The service: accounts are registered and confirmed, people log in, and sessions are rotated, listed and
ended. -/

namespace SignIn

structure Service where
  name : String
  codec : TokenCodec
  codeTtl : Int
  defaultRole : RoleId
  deriving DecidableEq

namespace Service

/-- There is no service with lifetimes longer than a span can be. -/
def ofSettings? (name : String) (a : AuthSettings) : Option Service := do
  return {
    name := name
    codec := ← TokenCodec.ofTimes? a.secret a.issuer a.accessTtlMinutes.toInt a.refreshTtlHours.toInt
    codeTtl := ← Span.minutes? a.codeTtlMinutes.toInt
    defaultRole := a.defaultRole }

open Operation

variable (s : Service)

def verified (purpose : TokenPurpose) (token : String) : Operation Claims := do
  match s.codec.verify (← ask .clock) purpose token with
  | .ok c => return c
  | .error e =>
    say .warn s!"Token rejected: {e.message}"
    refuse .authenticationFailed

def issuePair (identity : Identity) : Operation TokenPair := do
  require (s.codec.issuePair? (← ask .clock) identity)

/-- A code for an address that belongs to a user, unless one is out already. -/
def sendCode (channel : Channel) (address : String) : Operation CodeSent := do
  let some address := Text.filled? address
    | refuse (.invalid s!"{channel.label} is required")
  let user ← accounts (.byAddress channel address) (unknownUser "verify")
  let now ← ask .clock
  let p ← require (Passcode.draw? (← ask .drawCode) now s.codeTtl channel address user.id)
  codes (.save p s.codeTtl) fun
    | .alreadyExists => do
      say .info s!"Verification code for {channel.name} {address} still outstanding"
      refuse .alreadyOutstanding
    | e => storeFailure "send_verify" e
  ask (.post (.ofCode s.name channel address p.code))
  say .info s!"Sent {channel.name} verification code to {address}"
  return ⟨p.expiresAt⟩

def register (r : Registration) : Operation Registered := do
  let some name := Text.filled? r.name | refuse (.invalid "name is required")
  let email := r.email.bind Text.filled?
  let phone := r.phone.bind Text.filled?
  if email = none ∧ phone = none then refuse (.invalid "phone number or email is required")
  let channel ← liftExcept (Channel.ofName (Text.trim r.confirmBy))
  let some address := (match channel with | .phone => phone | .email => email)
    | refuse (.invalid s!"{channel.label} is required to confirm by {channel.name}")
  liftExcept (Password.validate r.password)
  let passwordHash := Password.hash (← ask .drawSalt) r.password
  say .info s!"Registering user {name} confirming by {channel.name}"
  let user ← accounts (.create { name, phone, email, passwordHash, roleId := s.defaultRole }) fun
    | .uniqueViolation constraint => do
      say .warn s!"Registration rejected, address taken ({constraint})"
      refuse (.duplicateAddress constraint)
    | e => repositoryFailure "register" e
  let role ← accounts (.role user.roleId) (repositoryFailure "register")
  let sent ← s.sendCode channel address
  say .info s!"Registered user {user.name} with id {user.id}"
  return ⟨user.id, user.name, role.name, sent.expiresAt⟩

/-- The code that was sent confirms the address, and is used up. -/
def confirm (channel : Channel) (address code : String) : Operation Unit := do
  let some address := Text.filled? address | incomplete
  let some code := Text.filled? code | incomplete
  let p ← codes (.get channel address) fun
    | .notFound => do
      say .warn s!"No outstanding {channel.name} code for {address}"
      refuse .authenticationFailed
    | e => storeFailure "confirm_verify" e
  if !p.accepts code then
    say .warn s!"Wrong {channel.name} verification code for {address}"
    refuse .authenticationFailed
  let user ← accounts (.byAddress channel address) (unknownUser "verify")
  accounts (.markVerified user.id channel) (absentUser "confirm_verify")
  codes (.delete channel address) fun e =>
    say .error s!"Failed to remove used {channel.name} code for {address}: {e.message}"
  say .info s!"User {user.id} verified {channel.name} {address}"
where
  incomplete {α : Type} : Operation α := refuse (.invalid s!"{channel.label} and code are required")

/-- An unknown address is answered like a wrong password. -/
def loginUser (channel : Channel) (address : String) : Operation User := do
  say .info s!"Received login request for {channel.name}: {address}"
  accounts (.byAddress channel address) (unknownUser "login")

def login (c : Credentials) (ip userAgent : String) : Operation LoggedIn := do
  let (channel, address) ← match c.email.bind Text.filled?, c.phone.bind Text.filled? with
    | some email, _ => pure (Channel.email, email)
    | none, some phone => pure (Channel.phone, phone)
    | none, none => refuse (.invalid "phone number or email is required")
  let user ← loginUser channel address
  if !Password.verify c.password user.passwordHash then
    say .warn s!"Login failed for user {user.id}: wrong password"
    refuse .authenticationFailed
  if (user.verifiedAt channel).isNone then
    say .warn s!"Login refused for user {user.id}: not verified"
    refuse .notVerified
  let role ← accounts (.role user.roleId) (repositoryFailure "login")
  let jti ← ask .mintId
  let tokens ← s.issuePair ⟨user.id, user.name, user.roleId, jti⟩
  let session : Session := ⟨"", user.id, user.roleId, userAgent, ip, ← ask .clock⟩
  sessions (.create jti session s.codec.refreshTtl) (storeFailure "login")
  say .info s!"User {user.id} logged in, session {jti}"
  return ⟨user.id, user.name, user.roleId, role.name, tokens⟩

/-- The session that a token names, if it is kept and the token's user's. -/
def ownSession (c : Claims) : Operation Session := do
  let session ← sessions (.get c.jti) fun
    | .notFound => do
      say .warn s!"Session {c.jti} not found"
      refuse .sessionNotFound
    | e => storeFailure "session lookup" e
  if session.userId ≠ c.userId then
    say .warn s!"Session {c.jti} is not owned by user {c.userId}"
    refuse .sessionNotFound
  return session

/-- Takes back a session that was made in vain. -/
def withdraw (jti : String) : Operation Unit :=
  sessions (.delete jti) fun
    | .notFound => return
    | e => say .error s!"Failed to discard session {jti}: {e.message}"

/-- A new pair of tokens for a refresh token, whose session is used up: of two that come with the same token, the
one whose session is gone has lost. -/
def refresh (token : String) : Operation LoggedIn := do
  let c ← s.verified .refresh token
  let old ← ownSession c
  let role ← accounts (.role old.roleId) (repositoryFailure "refresh")
  let jti ← ask .mintId
  let tokens ← s.issuePair ⟨c.userId, c.userName, old.roleId, jti⟩
  let session : Session := ⟨"", old.userId, old.roleId, old.userAgent, old.ip, ← ask .clock⟩
  sessions (.create jti session s.codec.refreshTtl) (storeFailure "refresh")
  sessions (.delete c.jti) fun e => do
    withdraw jti
    match e with
    | .notFound =>
      say .warn s!"Refresh lost race for session {c.jti}"
      refuse .sessionNotFound
    | e => storeFailure "refresh" e
  say .info s!"Rotated session {c.jti} to {jti} for user {c.userId}"
  return ⟨c.userId, c.userName, old.roleId, role.name, tokens⟩

def logout (token : String) : Operation Unit := do
  let c ← s.verified .refresh token
  let _ ← ownSession c
  sessions (.delete c.jti) (absentSession "logout")
  say .info s!"User {c.userId} logged out of session {c.jti}"

def sessionsOf (user : UserId) : Operation (List SessionView) := do
  let u ← accounts (.byId user) (absentUser "sessions")
  let l ← sessions (.list user) (storeFailure "sessions")
  say .debug s!"User {user} has {l.length} active sessions"
  return l.map fun x => ⟨x.jti, u.id, u.name, u.email, u.phone, x.roleId, x.userAgent, x.ip, x.createdAt⟩

/-- Ends a session of the caller's own. -/
def revoke (caller : UserId) (jti : String) : Operation Unit := do
  let session ← sessions (.get jti) (absentSession "revoke_session")
  if session.userId ≠ caller then
    say .warn s!"User {caller} attempted to revoke session {jti} of user {session.userId}"
    refuse .forbidden
  sessions (.delete jti) (absentSession "revoke_session")
  say .info s!"User {caller} revoked session {jti}"

def changePassword (user : UserId) (old new : String) : Operation Unit := do
  let u ← accounts (.byId user) (absentUser "update_password")
  if !Password.verify old u.passwordHash then
    say .warn s!"Password change for user {user} rejected: old password mismatch"
    refuse .oldPasswordMismatch
  liftExcept (Password.validate new)
  accounts (.setPassword user (Password.hash (← ask .drawSalt) new)) (absentUser "update_password")
  say .info s!"Password updated for user {user}"

/-- Access tokens are good while they last; their session is not asked after. -/
def authenticate (token : String) : Operation Identity := do
  return (← s.verified .access token).toIdentity

def profile (token : String) : Operation Profile := do
  let i ← s.authenticate token
  let u ← accounts (.byId i.userId) (absentUser "profile")
  let role ← accounts (.role u.roleId) (repositoryFailure "profile")
  return ⟨u.id, u.name, u.email, u.phone, role.name⟩

/-- Sends a message, and only logs what became of it. -/
def deliver (m : Message) : Program Query.Reply Unit := do
  let what := s!"{m.channel.name} code to {m.address}"
  match ← (Query.send m).ask with
  | .ok () => Query.note .debug s!"Delivered {what}"
  | .error e => Query.note .error s!"Failed to deliver {what}: {e.message}"

end Service
end SignIn
