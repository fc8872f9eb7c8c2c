import SignIn.Service.World

/-! Rehearsed failures: queries that do not reach the deployment but fail in a way laid down before. -/

namespace SignIn

inductive Failure where
  | notFound
  | alreadyExists
  | uniqueViolation (why : String)
  | internal (why : String)
  /-- no failure after all -/
  | pass
  deriving DecidableEq

def Failure.why : Failure → String
  | .uniqueViolation why | .internal why => why
  | _ => ""

def Failure.toStore : Failure → StoreError
  | .notFound => .notFound
  | .alreadyExists => .alreadyExists
  | f => .internal f.why

def Failure.toRepository : Failure → RepositoryError
  | .notFound => .notFound
  | .uniqueViolation why => .uniqueViolation why
  | f => .internal f.why

namespace Query

/-- The name under which failures of a query are laid down. -/
def topic? : Query → Option String
  | .accounts c => some <| match c with
    | .byId _ => "users.find_by_id"
    | .byAddress .email _ => "users.find_by_email"
    | .byAddress .phone _ => "users.find_by_phone"
    | .create _ => "users.create"
    | .setPassword .. => "users.update_password_hash"
    | .markVerified _ .email => "users.mark_email_verified"
    | .markVerified _ .phone => "users.mark_phone_verified"
    | .role _ => "users.get_role"
  | .sessions c => some <| match c with
    | .create .. => "sessions.create"
    | .get _ => "sessions.get_by_jti"
    | .list _ => "sessions.get_all_by_user"
    | .delete _ => "sessions.delete"
    | .purge => "sessions.purge_expired"
  | .codes c => some <| match c with
    | .save .. => "otps.save"
    | .get .. => "otps.get"
    | .delete .. => "otps.delete"
    | .purge => "otps.purge_expired"
  | .send (.sms ..) => some "notifier.send_sms"
  | .send (.mail ..) => some "notifier.send_mail"
  | _ => none

def fail? (q : Query) (f : Failure) : Option q.Reply :=
  if f = .pass then none
  else match q with
    | .accounts _ => some (.error f.toRepository)
    | .sessions _ => some (.error f.toStore)
    | .codes _ => some (.error f.toStore)
    | .send _ => some (.error (.gateway f.why))
    | _ => none

end Query

/-- A deployment, the failures laid down for it, and the queries that were made. -/
structure Rehearsal (δ : Type) where
  world : World δ
  failures : List (String × Failure) := []
  queries : List Query := []

namespace Rehearsal

variable {δ α : Type} [AccountStore δ]

/-- The first failure laid down for a query, and the rest. -/
def next (q : Query) (l : List (String × Failure)) : Option Failure × List (String × Failure) :=
  match l.find? (some ·.1 = q.topic?) with
  | none => (none, l)
  | some f => (some f.2, l.eraseP (some ·.1 = q.topic?))

def answer (src : Sources) (q : Query) (r : Rehearsal δ) : Option q.Reply × Rehearsal δ :=
  let (f, failures) := next q r.failures
  let r := { r with failures, queries := r.queries ++ [q] }
  match f.bind q.fail? with
  | some x => (some x, r)
  | none =>
    let (x, world) := r.world.answer src q
    (x, { r with world })

def run (src : Sources) (p : Program Query.Reply α) (r : Rehearsal δ) : Option α × Rehearsal δ :=
  p.run (answer src) r

/-- Sends what was posted. -/
def settle (src : Sources) (r : Rehearsal δ) : Rehearsal δ :=
  let due := r.world.outbox
  due.foldl (fun r m => (run src (Service.deliver m) r).2) { r with world.outbox := [] }

end Rehearsal
end SignIn
