import SignIn.Error
import SignIn.Log
import SignIn.Program

/-! Exchanges with a database: statements go out, rows come back. -/

namespace SignIn

inductive Cell where
  | null
  | int (n : Int64)
  | text (s : String)
  | bytes (b : Bytes)
  deriving DecidableEq

/-- Columns and their values; a column that is missing is null. -/
abbrev Row := List (String × Cell)

/-- What a statement belongs to. -/
inductive Topic where
  | transaction
  | accounts
  | schema
  | bookkeeping
  deriving DecidableEq

structure Statement where
  topic : Topic
  sql : String
  params : List Cell := []
  deriving DecidableEq

namespace Statement

def start : Statement := ⟨.transaction, "BEGIN", []⟩

def commit : Statement := ⟨.transaction, "COMMIT", []⟩

def rollback : Statement := ⟨.transaction, "ROLLBACK", []⟩

end Statement

/-- Why the server does not do what a statement says. -/
structure ServerError where
  code : Option String
  message : String
  constraint : Option String := none
  deriving DecidableEq

structure Outcome where
  rows : List Row := []
  affected : Nat := 0
  deriving DecidableEq

inductive DatabaseError where
  | rowNotFound
  | timedOut
  | closed
  | columnNotFound (column : String)
  | unexpectedNull (column : String)
  | unexpectedData (why : String)
  | configuration (why : String)
  | server (e : ServerError)
  deriving DecidableEq

namespace DatabaseError

def message : DatabaseError → String
  | .rowNotFound => "no rows returned by a query that expected to return at least one row"
  | .timedOut => "pool timed out while waiting for an open connection"
  | .closed => "attempted to acquire a connection on a closed pool"
  | .columnNotFound column => s!"no column found for name: {column}"
  | .unexpectedNull column =>
    s!"error occurred while decoding column \"{column}\": unexpected null; try decoding as an `Option`"
  | .unexpectedData why => s!"encountered unexpected or invalid data: {why}"
  | .configuration why => s!"error with configuration: {why}"
  | .server e => s!"error returned from database: {e.message}"

/-- The code of a value that has to be unique and is not. -/
def uniqueViolation : String := "23505"

def toRepository (e : DatabaseError) : RepositoryError :=
  match e with
  | .rowNotFound => .notFound
  | .server s =>
    if s.code = some uniqueViolation then .uniqueViolation (s.constraint.getD "unique")
    else .internal e.message
  | _ => .internal e.message

def toService (e : DatabaseError) : ServiceError := .internal e.message

end DatabaseError

inductive ExchangeQuery where
  | send (s : Statement)
  | log (l : LogLine)
  deriving DecidableEq

abbrev ExchangeQuery.Reply : ExchangeQuery → Type
  | .send _ => Except DatabaseError Outcome
  | .log _ => Unit

abbrev Exchange (α : Type) := ExceptT DatabaseError (Program ExchangeQuery.Reply) α

namespace Exchange

def send (s : Statement) : Exchange Outcome := ExceptT.mk (Program.request (ExchangeQuery.send s))

def note (level : Level) (text : String) : Exchange Unit :=
  ExceptT.lift (Program.request (ExchangeQuery.log ⟨level, text, []⟩))

/-- Ends what may be left of a transaction. -/
def abandon {α : Type} (e : DatabaseError) : Exchange α := do
  try let _ ← send .rollback
  catch _ => pure ()
  throw e

/-- What is done in a transaction counts only as a whole. -/
def transaction {α : Type} (body : Exchange α) : Exchange α := do
  try let _ ← send .start
  catch e => abandon e
  match ← ExceptT.lift body.run with
  | .ok a =>
    try let _ ← send .commit
    catch e => abandon e
    return a
  | .error e =>
    try let _ ← send .rollback
    catch e => abandon e
    throw e

end Exchange
end SignIn
