import SignIn.Account
import SignIn.Database.Statement

/-! Accounts in a database. -/

namespace SignIn.Repository

open Exchange

def cell (r : Row) (column : String) : Cell := ((r.find? (·.1 = column)).map (·.2)).getD .null

def int (r : Row) (column : String) : Except DatabaseError Int64 :=
  match cell r column with
  | .int n => .ok n
  | _ => .error (.unexpectedNull column)

def text (r : Row) (column : String) : Except DatabaseError String :=
  match cell r column with
  | .text s => .ok s
  | _ => .error (.unexpectedNull column)

def text? (r : Row) (column : String) : Option String :=
  match cell r column with
  | .text s => some s
  | _ => none

/-- Times come in milliseconds. -/
def instant (r : Row) (column : String) : Except DatabaseError Int := (int r column).map Int64.toInt

def instant? (r : Row) (column : String) : Option Int :=
  match cell r column with
  | .int n => some n.toInt
  | _ => none

def user (r : Row) : Except DatabaseError User := do
  return {
    id := ← int r "id"
    phone := text? r "phone_number"
    email := text? r "email"
    name := ← text r "name"
    passwordHash := ← text r "password_hash"
    roleId := ← int r "role_id"
    phoneVerifiedAt := instant? r "phone_verified_at"
    emailVerifiedAt := instant? r "email_verified_at"
    createdAt := ← instant r "created_at"
    updatedAt := ← instant r "updated_at" }

def role (r : Row) : Except DatabaseError Role := do
  return { id := ← int r "id", name := ← text r "name", description := text? r "description" }

def userColumns : String :=
  "id, phone_number, email, name, password_hash, role_id, phone_verified_at, email_verified_at, created_at, " ++
    "updated_at"

def column : Channel → String
  | .phone => "phone_number"
  | .email => "email"

def verifiedColumn : Channel → String
  | .phone => "phone_verified_at"
  | .email => "email_verified_at"

def ask (sql : String) (params : List Cell) : Exchange Outcome := send ⟨.accounts, sql, params⟩

/-- Of several rows the first counts. -/
def first? {α : Type} (read : Row → Except DatabaseError α) (o : Outcome) : Except DatabaseError (Option α) :=
  match o.rows with
  | [] => .ok none
  | r :: _ => (read r).map some

def found {α : Type} : Option α → Exchange α
  | none => throw .rowNotFound
  | some a => return a

def selectUser (column : String) : String := s!"SELECT {userColumns} FROM users WHERE {column} = $1"

def insertUser : String :=
  "INSERT INTO users (name, phone_number, email, password_hash, role_id) VALUES ($1, $2, $3, $4, $5) RETURNING " ++
    userColumns

def textOrNull : Option String → Cell
  | none => .null
  | some s => .text s

/-- A statement about one row, which must be there. -/
def change (sql : String) (params : List Cell) : Exchange Unit := do
  if (← ask sql params).affected = 0 then throw .rowNotFound

def create (u : NewUser) : Exchange User := transaction do
  let o ← ask insertUser
    [.text u.name, textOrNull u.phone, textOrNull u.email, .text u.passwordHash, .int u.roleId]
  found (← liftExcept (first? user o))

def byAddress (c : Channel) (address : String) : Exchange User := do
  note .debug s!"Looking up user by {column c}"
  let u ← try liftExcept (first? user (← ask (selectUser (column c)) [.text address]))
    catch e => do
      note .error s!"Failed to load user by {column c}: {e.message}"
      throw e
  found u

def answer (c : AccountCall) : Exchange c.Answer :=
  match c with
  | .byId id => do found (← liftExcept (first? user (← ask (selectUser "id") [.int id])))
  | .byAddress c a => byAddress c a
  | .create u => create u
  | .setPassword id h => change "UPDATE users SET password_hash = $1, updated_at = NOW() WHERE id = $2" [.text h, .int id]
  | .markVerified id c =>
    change s!"UPDATE users SET {verifiedColumn c} = NOW(), updated_at = NOW() WHERE id = $1" [.int id]
  | .role id => do
    found (← liftExcept (first? role (← ask "SELECT id, name, description FROM roles WHERE id = $1" [.int id])))

end SignIn.Repository
