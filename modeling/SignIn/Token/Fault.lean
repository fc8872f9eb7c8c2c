import SignIn.Error

/-! What can be wrong with a signed token, in the detail of the signing layer, and what the library reports of it. -/

namespace SignIn

inductive TokenFault where
  | segments
  | signature
  | algorithm
  | noAlgorithm
  | algorithmName
  | keyFormat
  | curveKey
  | modulusKey (why : String)
  | signing
  | cryptography
  | base64
  | json
  | encoding
  | missingClaim (name : String)
  | expired
  | early
  | issuer
  | audience
  | subject
  deriving DecidableEq

namespace TokenFault

def text : TokenFault → String
  | .segments => "InvalidToken"
  | .signature => "InvalidSignature"
  | .algorithm => "InvalidAlgorithm"
  | .noAlgorithm => "MissingAlgorithm"
  | .algorithmName => "InvalidAlgorithmName"
  | .keyFormat => "InvalidKeyFormat"
  | .curveKey => "InvalidEcdsaKey"
  | .modulusKey why => s!"RSA key invalid: {why}"
  | .signing => "RsaFailedSigning"
  | .cryptography => "Crypto error: ring::error::Unspecified"
  | .base64 => "Base64 error"
  | .json => "JSON error"
  | .encoding => "UTF-8 error"
  | .missingClaim name => s!"Missing required claim: {name}"
  | .expired => "ExpiredSignature"
  | .early => "ImmatureSignature"
  | .issuer => "InvalidIssuer"
  | .audience => "InvalidAudience"
  | .subject => "InvalidSubject"

/-- A token of another algorithm is a token that is not signed here. -/
def toError : TokenFault → TokenError
  | .signature | .algorithm => .invalidSignature
  | .expired => .expired
  | .issuer => .issuerMismatch
  | f => .malformed f.text

end TokenFault
end SignIn
