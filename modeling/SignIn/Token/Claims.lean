import SignIn.Clock
import SignIn.Json.Printer
import SignIn.Json.Reader

/-! What a token says, and how that is written down. -/

namespace SignIn

abbrev UserId := Int64

abbrev RoleId := Int64

inductive TokenPurpose where
  | access
  | refresh
  deriving DecidableEq

def TokenPurpose.name : TokenPurpose → String
  | .access => "access"
  | .refresh => "refresh"

def TokenPurpose.ofName? (s : String) : Option TokenPurpose :=
  if s = "access" then some .access else if s = "refresh" then some .refresh else none

def TokenPurpose.ofJson? (v : Json) : Option TokenPurpose := v.alternative?.bind ofName?

@[simp] theorem TokenPurpose.ofName?_name (p : TokenPurpose) : ofName? p.name = some p := by
  cases p <;> rfl

/-- Whom a token stands for, and in which session. -/
structure Identity where
  userId : UserId
  userName : String
  roleId : RoleId
  jti : String
  deriving DecidableEq

structure Claims extends Identity where
  issuer : String
  purpose : TokenPurpose
  /-- in whole seconds -/
  issuedAt : Int64
  expiresAt : Int64
  deriving DecidableEq

namespace Claims

def toJson (c : Claims) : Json :=
  .members [
    ("iss", .string c.issuer),
    ("sub", .int c.userId.toInt),
    ("user_name", .string c.userName),
    ("role_id", .int c.roleId.toInt),
    ("jti", .string c.jti),
    ("typ", .string c.purpose.name),
    ("iat", .int c.issuedAt.toInt),
    ("exp", .int c.expiresAt.toInt)]

def fields : List String := ["iss", "sub", "user_name", "role_id", "jti", "typ", "iat", "exp"]

/-- Further members of the object are of no account. -/
def ofJson? (v : Json) : Option Claims := do
  match ← v.record? fields with
  | [some iss, some sub, some name, some role, some jti, some typ, some iat, some exp] =>
    return {
      issuer := ← iss.text?
      userId := ← sub.int64?
      userName := ← name.text?
      roleId := ← role.int64?
      jti := ← jti.text?
      purpose := ← TokenPurpose.ofJson? typ
      issuedAt := ← iat.int64?
      expiresAt := ← exp.int64? }
  | _ => none

end Claims
end SignIn
