import SignIn.Session
import SignIn.Token.Codec

/-! What callers bring and what they are given. -/

namespace SignIn

structure Registration where
  name : String
  email : Option String
  phone : Option String
  password : String
  /-- the name of the channel over which the registration is confirmed -/
  confirmBy : String
  deriving DecidableEq

structure Credentials where
  email : Option String
  phone : Option String
  password : String
  deriving DecidableEq

def Registration.ofJson? (v : Json) : Option Registration := do
  match ← v.record? ["name", "email", "phone_number", "password", "confirm_type"] with
  | [some name, email, phone, some password, some confirm] =>
    return ⟨← name.text?, ← Json.optional? (·.text?) email, ← Json.optional? (·.text?) phone,
      ← password.text?, ← confirm.text?⟩
  | _ => none

def Credentials.ofJson? (v : Json) : Option Credentials := do
  match ← v.record? ["email", "phone_number", "password"] with
  | [email, phone, some password] =>
    return ⟨← Json.optional? (·.text?) email, ← Json.optional? (·.text?) phone, ← password.text?⟩
  | _ => none

structure Registered where
  id : UserId
  name : String
  roleName : String
  codeExpiresAt : Int
  deriving DecidableEq

structure LoggedIn where
  id : UserId
  name : String
  roleId : RoleId
  roleName : String
  tokens : TokenPair
  deriving DecidableEq

structure CodeSent where
  expiresAt : Int
  deriving DecidableEq

/-- A session as its user sees it. -/
structure SessionView where
  jti : String
  userId : UserId
  userName : String
  userEmail : Option String
  userPhone : Option String
  roleId : RoleId
  userAgent : String
  ip : String
  createdAt : Int
  deriving DecidableEq

structure Profile where
  id : UserId
  name : String
  email : Option String
  phone : Option String
  roleName : String
  deriving DecidableEq

end SignIn
