import SignIn.Channel
import SignIn.Log
import SignIn.Token.Claims

/-! Accounts, and what a repository of them is asked. -/

namespace SignIn

structure User where
  id : UserId
  phone : Option String
  email : Option String
  name : String
  passwordHash : String
  roleId : RoleId
  phoneVerifiedAt : Option Int
  emailVerifiedAt : Option Int
  createdAt : Int
  updatedAt : Int
  deriving DecidableEq

/-- A user that does not exist yet. -/
structure NewUser where
  name : String
  phone : Option String
  email : Option String
  passwordHash : String
  roleId : RoleId
  deriving DecidableEq

structure Role where
  id : RoleId
  name : String
  description : Option String
  deriving DecidableEq

def NewUser.toUser (u : NewUser) (id : UserId) (now : Int) : User where
  id := id
  phone := u.phone
  email := u.email
  name := u.name
  passwordHash := u.passwordHash
  roleId := u.roleId
  phoneVerifiedAt := none
  emailVerifiedAt := none
  createdAt := now
  updatedAt := now

def User.address (u : User) : Channel → Option String
  | .phone => u.phone
  | .email => u.email

def User.verifiedAt (u : User) : Channel → Option Int
  | .phone => u.phoneVerifiedAt
  | .email => u.emailVerifiedAt

/-- The change is an update. -/
def User.verify (u : User) (c : Channel) (now : Int) : User :=
  match c with
  | .phone => { u with phoneVerifiedAt := some now, updatedAt := now }
  | .email => { u with emailVerifiedAt := some now, updatedAt := now }

inductive AccountCall where
  | byId (id : UserId)
  | byAddress (c : Channel) (address : String)
  | create (u : NewUser)
  | setPassword (id : UserId) (hash : String)
  | markVerified (id : UserId) (c : Channel)
  | role (id : RoleId)
  deriving DecidableEq

abbrev AccountCall.Answer : AccountCall → Type
  | .byId _ => User
  | .byAddress .. => User
  | .create _ => User
  | .setPassword .. => Unit
  | .markVerified .. => Unit
  | .role _ => Role

/-- Keeps accounts; an answer may leave lines in the log. -/
class AccountStore (δ : Type) where
  answer : (c : AccountCall) → Int → δ → Option (Except RepositoryError c.Answer) × δ × List LogLine

end SignIn
