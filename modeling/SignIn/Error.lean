import SignIn.Json.Printer

/-! Why a call is refused, what the caller is told and what it may be blamed on. -/

namespace SignIn

/-- Why a token is not accepted. -/
inductive TokenError where
  | invalidSignature
  | expired
  | issuerMismatch
  | purposeMismatch
  | malformed (why : String)
  deriving DecidableEq

def TokenError.message : TokenError → String
  | .invalidSignature => "Invalid token signature"
  | .expired => "Token expired"
  | .issuerMismatch => "Token issuer mismatch"
  | .purposeMismatch => "Token purpose mismatch"
  | .malformed why => s!"Malformed token: {why}"

/-- Why a store of sessions or codes does not answer. -/
inductive StoreError where
  | notFound
  | alreadyExists
  | internal (why : String)
  deriving DecidableEq

def StoreError.message : StoreError → String
  | .notFound => "Record not found or expired"
  | .alreadyExists => "Record already exists"
  | .internal why => s!"Store error: {why}"

/-- Why the repository of accounts does not answer. -/
inductive RepositoryError where
  | notFound
  | uniqueViolation (constraint : String)
  | internal (why : String)
  deriving DecidableEq

def RepositoryError.message : RepositoryError → String
  | .notFound => "Record not found"
  | .uniqueViolation constraint => s!"Unique constraint violated: {constraint}"
  | .internal why => s!"Repository error: {why}"

/-- Why a message is not delivered. -/
inductive DeliveryError where
  | request (why : String)
  | gateway (why : String)
  deriving DecidableEq

def DeliveryError.message : DeliveryError → String
  | .request why => s!"Gateway request failed: {why}"
  | .gateway why => s!"Gateway rejected message: {why}"

/-- Why the service refuses a call. -/
inductive ServiceError where
  | invalid (why : String)
  | unsupportedPurpose (purpose : String)
  | authenticationFailed
  | notVerified
  | sessionNotFound
  | forbidden
  | alreadyOutstanding
  | duplicateAddress (constraint : String)
  | oldPasswordMismatch
  | userNotFound
  | configuration (why : String)
  | internal (why : String)
  deriving DecidableEq

/-- What a caller can tell apart. -/
inductive ErrorKind where
  | invalid | unsupportedPurpose | authenticationFailed | notVerified | sessionNotFound | forbidden
  | alreadyOutstanding | duplicateAddress | oldPasswordMismatch | userNotFound | internal
  deriving DecidableEq

def ErrorKind.status : ErrorKind → Nat
  | .invalid | .unsupportedPurpose | .oldPasswordMismatch => 400
  | .authenticationFailed | .sessionNotFound => 401
  | .notVerified | .forbidden => 403
  | .userNotFound => 404
  | .duplicateAddress => 409
  | .alreadyOutstanding => 429
  | .internal => 500

namespace ServiceError

def kind : ServiceError → ErrorKind
  | .invalid _ => .invalid
  | .unsupportedPurpose _ => .unsupportedPurpose
  | .authenticationFailed => .authenticationFailed
  | .notVerified => .notVerified
  | .sessionNotFound => .sessionNotFound
  | .forbidden => .forbidden
  | .alreadyOutstanding => .alreadyOutstanding
  | .duplicateAddress _ => .duplicateAddress
  | .oldPasswordMismatch => .oldPasswordMismatch
  | .userNotFound => .userNotFound
  | .configuration _ | .internal _ => .internal

def message : ServiceError → String
  | .invalid why => s!"Validation error: {why}"
  | .unsupportedPurpose purpose => s!"Unsupported verification purpose: {purpose}"
  | .authenticationFailed => "Authentication failed"
  | .notVerified => "Account is not verified"
  | .sessionNotFound => "Session not found or expired"
  | .forbidden => "Forbidden"
  | .alreadyOutstanding => "Verification code already sent, wait until it expires"
  | .duplicateAddress constraint => s!"Address already registered: {constraint}"
  | .oldPasswordMismatch => "Old password does not match"
  | .userNotFound => "User not found"
  | .configuration why => s!"Configuration error: {why}"
  | .internal why => s!"Internal error: {why}"

def status (e : ServiceError) : Nat := e.kind.status

/-- What the caller is told: nothing of the inside. -/
def clientMessage (e : ServiceError) : String :=
  if e.kind = .internal then "Internal server error" else e.message

/-- The answer sent over the wire. -/
def body (e : ServiceError) : Json :=
  .members [("error", .members [("message", .string e.clientMessage), ("status", .int e.status)])]

/-- Outside the calls that give it a meaning of their own, a repository's refusal is passed on. -/
def ofRepository : RepositoryError → ServiceError
  | .notFound => .userNotFound
  | .uniqueViolation constraint => .duplicateAddress constraint
  | .internal why => .internal why

end ServiceError
end SignIn
