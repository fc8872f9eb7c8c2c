import SignIn.Error
import SignIn.Hash.Argon2
import SignIn.Password.Phc

/-! Passwords, which are kept as salted hashes only. -/

namespace SignIn.Password

def minLength : Nat := 8

/-- Passwords are counted in characters. -/
def validate (password : String) : Except ServiceError Unit :=
  if password.length < minLength then .error (.invalid s!"password must be at least {minLength} characters")
  else .ok ()

abbrev Salt := Vector UInt8 16

def saltText (s : Salt) : List Char := Base64.standard.encode s.toList

/-- What new hashes are made with. -/
def cost : Argon2.Cost := ⟨19456, 2, 1⟩

def size : Nat := 32

def variantName : Argon2.Variant → List Char
  | .dependent => "argon2d".toList
  | .independent => "argon2i".toList
  | .hybrid => "argon2id".toList

def variant? (name : List Char) : Option Argon2.Variant :=
  if name = variantName .hybrid then some .hybrid
  else if name = variantName .independent then some .independent
  else if name = variantName .dependent then some .dependent
  else none

def version? (n : Nat) : Option Argon2.Version :=
  if n = Argon2.Version.mixes.code then some .mixes
  else if n = Argon2.Version.overwrites.code then some .overwrites
  else none

/-- Octets in base64, no more than `limit`. -/
def octets? (limit : Nat) (s : List Char) : Option Bytes :=
  (Base64.standard.decode? s).filter fun b => decide (b.length ≤ limit)

/-- Takes over one parameter; a later one of the same name wins. -/
def setParam (i : Argon2.Input) (p : List Char × List Char) : Option Argon2.Input :=
  if p.1 = ['m'] then (Phc.number? p.2).map fun n => { i with cost.memory := n }
  else if p.1 = ['t'] then (Phc.number? p.2).map fun n => { i with cost.passes := n }
  else if p.1 = ['p'] then (Phc.number? p.2).map fun n => { i with cost.lanes := n }
  else if p.1 = "keyid".toList then (octets? 8 p.2).map fun _ => i
  else if p.1 = "data".toList then (octets? 32 p.2).map fun b => { i with associated := b }
  else none

def isValid (c : Argon2.Cost) : Bool :=
  8 ≤ c.memory && 8 * c.lanes ≤ c.memory && 1 ≤ c.passes && 1 ≤ c.lanes && c.lanes ≤ 0xFFFFFF

/-- How the output of a hash was made. -/
def input? (h : Phc) : Option Argon2.Input := do
  let variant ← variant? h.algorithm
  let version ← version? (h.version.getD Argon2.Version.mixes.code)
  let i ← h.params.foldlM setParam ⟨variant, version, cost, [], h.output.length⟩
  if isValid i.cost then some i else none

def salt? (h : Phc) : Option Bytes :=
  (Base64.standard.decode? h.salt).filter fun b => decide (8 ≤ b.length)

/-- Whether the hash was made from the password. A text that is no hash was made from none. -/
def verify (password hash : String) : Bool :=
  match Phc.ofText? hash with
  | none => false
  | some h =>
    match input? h, salt? h with
    | some i, some salt => Argon2.hash i (Bytes.ofText password) salt = h.output
    | _, _ => false

/-- The answer where there is no hash to verify against. -/
def verifyNone (_ : String) : Bool := false

def hash (salt : Salt) (password : String) : String :=
  Phc.print {
    algorithm := variantName .hybrid
    version := some Argon2.Version.mixes.code
    params := [(['m'], Nat.toDigits 10 cost.memory), (['t'], Nat.toDigits 10 cost.passes),
      (['p'], Nat.toDigits 10 cost.lanes)]
    salt := saltText salt
    output := Argon2.hash ⟨.hybrid, .mixes, cost, [], size⟩ (Bytes.ofText password) salt.toList }

end SignIn.Password
