import SignIn.Token.Claims

/-! Sessions: a refresh token is honoured while the session it names is kept. -/

namespace SignIn

structure Session where
  jti : String
  userId : UserId
  roleId : RoleId
  userAgent : String
  ip : String
  createdAt : Int
  deriving DecidableEq

inductive SessionCall where
  | create (jti : String) (s : Session) (ttl : Int)
  | get (jti : String)
  | list (user : UserId)
  | delete (jti : String)
  | purge
  deriving DecidableEq

abbrev SessionCall.Answer : SessionCall → Type
  | .create .. => Unit
  | .get _ => Session
  | .list _ => List Session
  | .delete _ => Unit
  | .purge => Nat

end SignIn
