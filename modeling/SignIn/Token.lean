import SignIn.Base64
import SignIn.Hash.Hmac
import SignIn.Token.Claims
import SignIn.Token.Fault
import SignIn.Token.Header

/-! Signed tokens: a header and claims, each JSON in base64, and a keyed digest of the two. A token is judged by
itself; whether its session is still honoured is not asked here. -/

namespace SignIn.Token

/-- The digest of a header and claims, as written behind them. -/
def signature (secret : String) (message : List Char) : List Char :=
  Base64.url.encode (hmacSha256 (Bytes.ofText secret) (Bytes.ofText (.ofList message)))

def segment (v : Json) : List Char := Base64.url.encode v.print

def sign (secret : String) (c : Claims) : String :=
  let message := segment TokenHeader.toJson ++ '.' :: segment c.toJson
  .ofList (message ++ '.' :: signature secret message)

/-- A token of `purpose` for `identity`; nothing where the calendar ends before it expires. -/
def issue? (now : Int) (secret issuer : String) (ttl : Int) (purpose : TokenPurpose) (identity : Identity) :
    Option String := do
  let expiry ← Instant.after? now ttl
  return sign secret
    { identity with
      issuer := issuer
      purpose := purpose
      issuedAt := .ofInt (Instant.seconds now)
      expiresAt := .ofInt (Instant.seconds expiry) }

/-- What stands before and after the last point. -/
def splitLast? (s : List Char) : Option (List Char × List Char) :=
  let r := s.reverse
  match r.dropWhile (· ≠ '.') with
  | [] => none
  | _ :: front => some (front.reverse, (r.takeWhile (· ≠ '.')).reverse)

def segmentJson (s : List Char) : Except TokenFault Json :=
  match Base64.url.decode? s with
  | none => .error .base64
  | some b => match Json.ofBytes? b with
    | none => .error .json
    | some v => .ok v

/-- The claims, once header and signature are found in order. -/
def claims (secret token : String) : Except TokenFault (Json × Claims) := do
  let some (message, mark) := splitLast? token.toList | .error .segments
  let some (header, payload) := splitLast? message | .error .segments
  let some algorithm := TokenHeader.algorithm? (← segmentJson header) | .error .json
  if algorithm ≠ TokenHeader.algorithm then .error .algorithm
  else if mark ≠ signature secret message then .error .signature
  else
    let v ← segmentJson payload
    match Claims.ofJson? v with
    | none => .error .json
    | some c => .ok (v, c)

/-- Whether claims name an audience. They may name one, or hold something else in its place; either way that must
leave the rest of the claims readable. -/
def audience (v : Json) : Except TokenFault Bool :=
  match v.record? ["nbf", "aud"] with
  | some [start, aud] =>
    let astray : Bool := match start with
      | some (.array (_ :: _)) | some (.object (_ :: _)) => true
      | some (.text s) => s.taken = .lost
      | _ => false
    match aud with
    | none => if astray then .error .json else .ok false
    | some a =>
      let taken := a.taken (Json.maxDepth - 1)
      if astray || taken = .lost then .error .json
      else .ok (taken = .whole && (a.text?.isSome || (TokenHeader.texts? a).isSome))
  | _ => .error .json

/-- The claims of a token that is signed with `secret`, in time and from `issuer`. -/
def accepted (now : Int) (secret issuer token : String) : Except TokenFault Claims := do
  let (v, c) ← claims secret token
  let named ← audience v
  if c.expiresAt < 0 then .error (.missingClaim "exp")
  else if c.expiresAt.toInt < Instant.seconds now then .error .expired
  else if c.issuer ≠ issuer then .error .issuer
  else if named then .error .audience
  else .ok c

def verify (now : Int) (secret issuer : String) (purpose : TokenPurpose) (token : String) :
    Except TokenError Claims :=
  match accepted now secret issuer token with
  | .error f => .error f.toError
  | .ok c => if c.purpose = purpose then .ok c else .error .purposeMismatch

end SignIn.Token
