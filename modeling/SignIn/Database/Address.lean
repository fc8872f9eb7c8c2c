import SignIn.Database.Statement
import SignIn.Url

/-! Where a database is, and how to connect to it, as one address. -/

namespace SignIn.DatabaseAddress

/-- A number below a limit. -/
def natural (limit : Nat) (s : String) : Except String Nat :=
  match Text.natural? s.toList with
  | some n => if n < limit then .ok n else .error "number too large to fit in target type"
  | none => .error (if s = "" then "cannot parse integer from empty string" else "invalid digit found in string")

def sslModes : List String := ["disable", "allow", "prefer", "require", "verify-ca", "verify-full"]

def isDottedQuad (s : String) : Bool :=
  let parts := Text.split '.' s.toList
  parts.length = 4 && parts.all fun p => (Text.decimal? p).any fun n => n < 256

/-- Whether a parameter of the address can be used. What is not known is passed over. -/
def checkParameter (name value : String) : Except DatabaseError Unit :=
  let number (limit : Nat) := match natural limit value with
    | .ok _ => .ok ()
    | .error why => .error (.configuration why)
  match name with
  | "sslmode" | "ssl-mode" =>
    if value.toLower ∈ sslModes then .ok ()
    else .error (.configuration (DatabaseError.configuration s!"unknown value {Text.quote value} for `ssl_mode`").message)
  | "statement-cache-capacity" => number UInt64.size
  | "port" => number UInt16.size
  | "hostaddr" =>
    if isDottedQuad value || Url.isIpv6 value.toList then .ok ()
    else .error (.configuration "invalid IP address syntax")
  | _ => .ok ()

def check (address : String) : Except DatabaseError Unit :=
  match Url.parse address with
  | .error e => .error (.configuration e.message)
  | .ok u => u.parameters.forM fun p => checkParameter p.1 p.2

end SignIn.DatabaseAddress
