import SignIn.Account
import SignIn.Message
import SignIn.Passcode.Store
import SignIn.Password
import SignIn.Program
import SignIn.Session

/-! What the service asks of its surroundings, and operations as programs that ask and may be refused. -/

namespace SignIn

inductive Query where
  | clock
  | mintId
  | drawCode
  | drawSalt
  | accounts (c : AccountCall)
  | sessions (c : SessionCall)
  | codes (c : PasscodeCall)
  /-- to be sent once the operation is over -/
  | post (m : Message)
  | send (m : Message)
  | log (l : LogLine)
  deriving DecidableEq

abbrev Query.Reply : Query → Type
  | .clock => Int
  | .mintId => String
  | .drawCode => Passcode.Draw
  | .drawSalt => Password.Salt
  | .accounts c => Except RepositoryError c.Answer
  | .sessions c => Except StoreError c.Answer
  | .codes c => Except StoreError c.Answer
  | .post _ => Unit
  | .send _ => Except DeliveryError Unit
  | .log _ => Unit

namespace Query

def ask (q : Query) : Program Reply q.Reply := .request q

def note (level : Level) (text : String) : Program Reply Unit := ask (.log ⟨level, text, []⟩)

end Query

abbrev Operation (α : Type) := ExceptT ServiceError (Program Query.Reply) α

namespace Operation

def ask (q : Query) : Operation q.Reply := ExceptT.lift q.ask

def require {α : Type} (a : Option α) : Operation α := ExceptT.lift (.require a)

def say (level : Level) (text : String) : Operation Unit := ask (.log ⟨level, text, []⟩)

def refuse {α : Type} (e : ServiceError) : Operation α := throw e

def accounts (c : AccountCall) (refused : RepositoryError → Operation c.Answer) : Operation c.Answer := do
  match ← ask (.accounts c) with
  | .ok a => return a
  | .error e => refused e

def sessions (c : SessionCall) (refused : StoreError → Operation c.Answer) : Operation c.Answer := do
  match ← ask (.sessions c) with
  | .ok a => return a
  | .error e => refused e

def codes (c : PasscodeCall) (refused : StoreError → Operation c.Answer) : Operation c.Answer := do
  match ← ask (.codes c) with
  | .ok a => return a
  | .error e => refused e

/-- A failure of the repository is the service's own. -/
def repositoryFailure {α : Type} (action : String) (e : RepositoryError) : Operation α := do
  say .error s!"{action} failed in user repository: {e.message}"
  refuse (.internal e.message)

/-- So is one of a store. -/
def storeFailure {α : Type} (action : String) (e : StoreError) : Operation α := do
  say .error s!"{action} failed in store: {e.message}"
  refuse (.internal e.message)

/-- Where an account must be there. -/
def absentUser {α : Type} (action : String) : RepositoryError → Operation α
  | .notFound => refuse .userNotFound
  | e => repositoryFailure action e

/-- Where it may not be known that an account is not there. -/
def unknownUser {α : Type} (action : String) : RepositoryError → Operation α
  | .notFound => do
    say .warn s!"{action} failed: unknown identifier"
    refuse .authenticationFailed
  | e => repositoryFailure action e

def absentSession {α : Type} (action : String) : StoreError → Operation α
  | .notFound => refuse .sessionNotFound
  | e => storeFailure action e

end Operation
end SignIn
