import SignIn.Text.Quoted
import SignIn.Token

/-! The signing parameters of a deployment, and the tokens of a session. -/

namespace SignIn

/-- Minted together for one session. -/
structure TokenPair where
  access : String
  refresh : String
  jti : String
  deriving DecidableEq

structure TokenCodec where
  secret : String
  issuer : String
  accessTtl : Int
  refreshTtl : Int
  deriving DecidableEq

namespace TokenCodec

/-- Lifetimes in minutes and in hours. -/
def ofTimes? (secret issuer : String) (minutes hours : Int) : Option TokenCodec := do
  return ⟨secret, issuer, ← Span.minutes? minutes, ← Span.hours? hours⟩

def ttl (c : TokenCodec) : TokenPurpose → Int
  | .access => c.accessTtl
  | .refresh => c.refreshTtl

def issue? (c : TokenCodec) (now : Int) (purpose : TokenPurpose) (identity : Identity) : Option String :=
  Token.issue? now c.secret c.issuer (c.ttl purpose) purpose identity

def issuePair? (c : TokenCodec) (now : Int) (identity : Identity) : Option TokenPair := do
  let access ← c.issue? now .access identity
  let refresh ← c.issue? now .refresh identity
  return ⟨access, refresh, identity.jti⟩

def verify (c : TokenCodec) (now : Int) (purpose : TokenPurpose) (token : String) : Except TokenError Claims :=
  Token.verify now c.secret c.issuer purpose token

/-- A span as whole seconds downwards and the nanoseconds beyond them. -/
def spanText (d : Int) : String :=
  s!"TimeDelta \x7b secs: {d / 1000}, nanos: {d % 1000 * 1000000} \x7d"

/-- All but the secret. -/
def summary (c : TokenCodec) : String :=
  s!"TokenCodec \x7b issuer: {Text.quote c.issuer}, access_ttl: {spanText c.accessTtl}, " ++
    s!"refresh_ttl: {spanText c.refreshTtl}, .. \x7d"

end TokenCodec
end SignIn
