import SignIn.Database.Address
import SignIn.Database.Script
import SignIn.Gateway
import SignIn.Service.Rehearsal
import SignIn.Service.Sweeper

/-! The whole of a deployment: accounts in a database, sessions and codes in memory, messages through the gateway
if there is one. -/

namespace SignIn

structure Application where
  settings : Settings
  service : Service
  gateway : Option Gateway
  deriving DecidableEq

namespace Application

/-- Failures of a server that may go away by themselves; they are waited out. -/
def isPassing (e : ServerError) : Bool := e.code = some "53300" || e.code = some "57P03"

/-- Connects to a database, which may refuse. -/
def connect (address : String) (refusal : Option DatabaseError) : Except DatabaseError Unit := do
  DatabaseAddress.check address
  match refusal with
  | none => return
  | some (.server e) => throw (if isPassing e then .timedOut else .server e)
  | some e => throw e

def migrationFailure (e : MigrationError) : RepositoryError := .internal e.message

/-- A connection that is kept ends what was left open on it. -/
def migrate (s : Script) : Except RepositoryError Unit × Script :=
  match s.run Migration.run with
  | (some (.ok ()), s) => (.ok (), s)
  | (some (.error e), s) =>
    let s := match e with
      | .execution _ => (s.send .rollback).2
      | _ => s
    (.error (migrationFailure e), s)
  | (none, s) => (.error .notFound, s)

def gateway? (s : Settings) : Option Gateway :=
  s.notifications.smsc?.map fun a => .ofAccount a s.notifications.mailFrom

/-- What is logged about the way messages take. -/
def remark (s : Settings) : LogLine :=
  match s.notifications.smsc? with
  | some a => ⟨.info, s!"Delivering verification codes through SMSC at {a.host}", []⟩
  | none => ⟨.warn, "SMSC is not configured, verification codes will only be logged", []⟩

/-- Connects, migrates and sets up the service. The connection of a deployment that fails is given up. There is no
deployment with lifetimes longer than a span can be. -/
def start (s : Settings) (refusal : Option DatabaseError) (script : Script) :
    Option (Except ServiceError Application) × Script × List LogLine :=
  match connect s.database.url refusal with
  | .error e => (some (.error (.ofRepository e.toRepository)), script, [])
  | .ok () => match script.run Migration.run with
    | (none, script) => (none, script, [])
    | (some (.error e), script) => (some (.error (.ofRepository (migrationFailure e))), script, [])
    | (some (.ok ()), script) =>
      let service := Service.ofSettings? s.notifications.serviceName s.auth
      (service.map fun x => .ok ⟨s, x, gateway? s⟩, script, [remark s])

def carrier (a : Application) (client : HttpClient) : Carrier :=
  match a.gateway with
  | some g => g.carrier client
  | none => .log

/-- From here on no call reaches the database. -/
def shutdown (w : World Script) : World Script :=
  { w with accounts.closed := true }.write [⟨.info, "Database pool closed", []⟩]

end Application
end SignIn
