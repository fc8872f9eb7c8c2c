import SignIn.Hash.Sha2

/-! Keyed digests. -/

namespace SignIn

/-- The key, hashed if it is longer than a block, then filled with zeros to a block. -/
def hmacKey (hash : Bytes → Bytes) (block : Nat) (key : Bytes) : Bytes :=
  let k := if key.length ≤ block then key else hash key
  k ++ List.replicate (block - k.length) 0

def hmac (hash : Bytes → Bytes) (block : Nat) (key message : Bytes) : Bytes :=
  let k := hmacKey hash block key
  hash (k.map (· ^^^ 0x5c) ++ hash (k.map (· ^^^ 0x36) ++ message))

def hmacSha256 (key message : Bytes) : Bytes := hmac sha256.hash 64 key message

end SignIn
