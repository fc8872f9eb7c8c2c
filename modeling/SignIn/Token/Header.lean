import SignIn.Json.Buffer

/-! The header of a token, of which only the algorithm is used; the rest must still have the form it should. -/

namespace SignIn.TokenHeader

/-- The algorithm of the tokens issued here. -/
def algorithm : String := "HS256"

def algorithms : List String :=
  ["HS256", "HS384", "HS512", "ES256", "ES384", "RS256", "RS384", "RS512", "PS256", "PS384", "PS512", "EdDSA"]

def toJson : Json := .members [("typ", .string "JWT"), ("alg", .string algorithm)]

def oneOf? (names : List String) (v : Json) : Option String := v.alternative?.filter (· ∈ names)

def texts? (v : Json) : Option (List String) := v.list?.bind (·.mapM Json.text?)

def curves : List String := ["P-256", "P-384", "P-521", "Ed25519"]

def keyAlgorithms : List String := algorithms ++ ["RSA1_5", "RSA-OAEP", "RSA-OAEP-256"]

/-- A key of one of the kinds, with all that a key of its kind has. -/
def isKeyMaterial (v : Json) : Bool :=
  let has (kind : String) (parts : List (String × (Json → Bool))) : Bool :=
    match v.record? ("kty" :: parts.map (·.1)) with
    | some (some k :: vs) =>
      k.alternative? == some kind && (vs.zip parts).all fun p => p.1.any p.2.2
    | _ => false
  let text (v : Json) : Bool := v.text?.isSome
  let curve (v : Json) : Bool := (oneOf? curves v).isSome
  has "EC" [("crv", curve), ("x", text), ("y", text)] || has "RSA" [("n", text), ("e", text)] ||
    has "oct" [("k", text)] || has "OKP" [("crv", curve), ("x", text)]

def isKey (v : Json) : Bool :=
  match v with
  | .object _ =>
    let fits (read : Json → Bool) (field : Option Json) : Bool := field.all fun
      | .null => true
      | v => read v
    let text (v : Json) : Bool := v.text?.isSome
    let list (v : Json) : Bool := (texts? v).isSome
    v.taken (Json.maxDepth - 1) = .whole &&
    (match v.record? ["use", "key_ops", "alg", "kid", "x5u", "x5c", "x5t", "x5t#S256"] with
    | some [usage, ops, alg, kid, x5u, x5c, x5t, x5t256] =>
      [usage, kid, x5u, x5t, x5t256].all (fits text) && [ops, x5c].all (fits list) &&
        fits (fun v => (oneOf? keyAlgorithms v).isSome) alg
    | _ => false) && isKeyMaterial v
  | _ => false

/-- The algorithm that a header names. -/
def algorithm? (v : Json) : Option String := do
  match ← v.record? ["typ", "alg", "cty", "jku", "jwk", "kid", "x5u", "x5c", "x5t", "x5t#S256"] with
  | [typ, some alg, cty, jku, jwk, kid, x5u, x5c, x5t, x5t256] =>
    for field in [typ, cty, jku, kid, x5u, x5t, x5t256] do
      discard <| Json.optional? Json.text? field
    discard <| Json.optional? texts? x5c
    discard <| Json.optional? (fun v => if isKey v then some () else none) jwk
    oneOf? algorithms alg
  | _ => none

end SignIn.TokenHeader
