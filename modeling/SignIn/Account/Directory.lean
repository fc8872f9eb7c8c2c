import SignIn.Account
import SignIn.Table

/-! Accounts kept in memory. No two users share an address. -/

namespace SignIn

structure Directory where
  users : Table UserId User := []
  nextId : UserId := 1
  deriving DecidableEq

namespace Directory

def roles : List Role := [⟨1, "admin", none⟩, ⟨2, "manager", none⟩, ⟨3, "user", none⟩]

def role? (id : RoleId) : Option Role := roles.find? (·.id = id)

def byAddress? (d : Directory) (c : Channel) (address : String) : Option User :=
  (d.users.find? fun e => e.2.address c = some address).map (·.2)

def constraint : Channel → String
  | .email => "users_email_key"
  | .phone => "users_phone_number_key"

/-- The channel over which a user is reached as the new one would be. -/
def clash? (u : NewUser) (v : User) : Option Channel :=
  if u.email.isSome ∧ v.email = u.email then some .email
  else if u.phone.isSome ∧ v.phone = u.phone then some .phone
  else none

/-- Numbers are given out in order and never again; after the last one there is no answer. -/
def create (d : Directory) (now : Int) (u : NewUser) : Option (Except RepositoryError User) × Directory :=
  if role? u.roleId = none then (some (.error (.internal s!"role {u.roleId} does not exist")), d)
  else match d.users.findSome? fun e => clash? u e.2 with
    | some c => (some (.error (.uniqueViolation (constraint c))), d)
    | none =>
      if d.nextId = Int64.maxValue then (none, d)
      else
        let user := u.toUser d.nextId now
        (some (.ok user), { users := d.users.insert d.nextId user, nextId := d.nextId + 1 })

def change (d : Directory) (id : UserId) (f : User → User) : Except RepositoryError Unit × Directory :=
  match d.users.get? id with
  | none => (.error .notFound, d)
  | some _ => (.ok (), { d with users := d.users.alter (·.map f) id })

def found {α : Type} : Option α → Except RepositoryError α
  | none => .error .notFound
  | some a => .ok a

def answer (c : AccountCall) (now : Int) (d : Directory) :
    Option (Except RepositoryError c.Answer) × Directory :=
  match c with
  | .byId id => (some (found (d.users.get? id)), d)
  | .byAddress c a => (some (found (d.byAddress? c a)), d)
  | .create u => d.create now u
  | .setPassword id h =>
    let (r, d) := d.change id fun u => { u with passwordHash := h, updatedAt := now }
    (some r, d)
  | .markVerified id c =>
    let (r, d) := d.change id (·.verify c now)
    (some r, d)
  | .role id => (some (found (role? id)), d)

instance : AccountStore Directory where
  answer c now d := let (r, d) := answer c now d; (r, d, [])

end Directory
end SignIn
