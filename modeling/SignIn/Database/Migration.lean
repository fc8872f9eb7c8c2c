import SignIn.Database.Statement
import SignIn.Hash.Sha2

/-! The changes that make a database what the repository expects. Which of them were made is on record in the
database itself. -/

namespace SignIn

structure Migration where
  version : Int64
  description : String
  sql : String
  deriving DecidableEq

inductive MigrationError where
  | bookkeeping (e : DatabaseError)
  /-- with a transaction left open -/
  | execution (e : DatabaseError)
  | dirty (version : Int64)
  | missing (version : Int64)
  | changed (version : Int64)
  deriving DecidableEq

def MigrationError.message : MigrationError → String
  | .bookkeeping e | .execution e => s!"while executing migrations: {e.message}"
  | .dirty v => s!"migration {v} is partially applied; fix and remove row from `_sqlx_migrations` table"
  | .missing v => s!"migration {v} was previously applied but is missing in the resolved migrations"
  | .changed v => s!"migration {v} was previously applied but has been modified"

namespace Migration

/-- A migration that was applied must not change any more. -/
def checksum (m : Migration) : Bytes := sha384.hash (Bytes.ofText m.sql)

def users : Migration where
  version := 20240101000000
  description := "users"
  sql := "CREATE TABLE IF NOT EXISTS roles (
    id BIGINT PRIMARY KEY,
    name TEXT NOT NULL UNIQUE,
    description TEXT,
    created_at TIMESTAMPTZ NOT NULL DEFAULT NOW()
);

INSERT INTO roles (id, name, description) VALUES
    (1, 'admin', 'Full access'),
    (2, 'manager', 'Manages users of the service'),
    (3, 'user', 'Default role for registered users')
ON CONFLICT (id) DO NOTHING;

CREATE TABLE IF NOT EXISTS users (
    id BIGSERIAL PRIMARY KEY,
    phone_number TEXT,
    email TEXT,
    name TEXT NOT NULL,
    password_hash TEXT NOT NULL,
    role_id BIGINT NOT NULL REFERENCES roles (id),
    phone_verified_at TIMESTAMPTZ,
    email_verified_at TIMESTAMPTZ,
    created_at TIMESTAMPTZ NOT NULL DEFAULT NOW(),
    updated_at TIMESTAMPTZ NOT NULL DEFAULT NOW(),
    CONSTRAINT users_phone_number_key UNIQUE (phone_number),
    CONSTRAINT users_email_key UNIQUE (email),
    CONSTRAINT users_address_present CHECK (phone_number IS NOT NULL OR email IS NOT NULL)
);
"

def all : List Migration := [users]

def createTable : String :=
  "CREATE TABLE IF NOT EXISTS _sqlx_migrations ( version BIGINT PRIMARY KEY, description TEXT NOT NULL, " ++
    "installed_on TIMESTAMPTZ NOT NULL DEFAULT now(), success BOOLEAN NOT NULL, checksum BYTEA NOT NULL, " ++
    "execution_time BIGINT NOT NULL );"

def selectDirty : String :=
  "SELECT version FROM _sqlx_migrations WHERE success = false ORDER BY version LIMIT 1"

def selectApplied : String := "SELECT version, checksum FROM _sqlx_migrations ORDER BY version"

def insertRecord : String :=
  "INSERT INTO _sqlx_migrations ( version, description, success, checksum, execution_time ) " ++
    "VALUES ( $1, $2, TRUE, $3, -1 )"

def updateTime : String := "UPDATE _sqlx_migrations SET execution_time = $1 WHERE version = $2"

abbrev Run (α : Type) := ExceptT MigrationError (Program ExchangeQuery.Reply) α

def within {α : Type} (error : DatabaseError → MigrationError) (x : Exchange α) : Run α := x.adapt error

def keep (sql : String) (params : List Cell) : Run Outcome :=
  within .bookkeeping (.send ⟨.bookkeeping, sql, params⟩)

def version? (r : Row) : Option Int64 := r.findSome? fun
  | ("version", .int v) => some v
  | _ => none

def applied? (r : Row) : Option (Int64 × Bytes) := do
  let v ← version? r
  let c ← r.findSome? fun
    | ("checksum", .bytes b) => some b
    | _ => none
  return (v, c)

/-- The migration and its record are one transaction. -/
def apply (m : Migration) : Run Unit := do
  within .execution do
    let _ ← Exchange.send .start
    let _ ← Exchange.send ⟨.schema, m.sql, []⟩
    let _ ← Exchange.send ⟨.bookkeeping, insertRecord, [.int m.version, .text m.description, .bytes m.checksum]⟩
    let _ ← Exchange.send .commit
  let _ ← keep updateTime [.int 0, .int m.version]

/-- Applies what is not on record. What is on record must be known and unchanged. -/
def run : Run Unit := do
  let _ ← keep "SELECT current_database()" []
  let _ ← keep "SELECT pg_advisory_lock($1)" [.null]
  let _ ← keep createTable []
  if let some v := (← keep selectDirty []).rows.findSome? version? then throw (.dirty v)
  let applied := (← keep selectApplied []).rows.filterMap applied?
  if let some v := applied.find? (fun a => all.all (·.version ≠ a.1)) then throw (.missing v.1)
  for m in all do
    match applied.find? (·.1 = m.version) with
    | some a => if a.2 ≠ m.checksum then throw (.changed m.version)
    | none => apply m
  let _ ← keep "SELECT current_database()" []
  let _ ← keep "SELECT pg_advisory_unlock($1)" [.null]

end Migration
end SignIn
