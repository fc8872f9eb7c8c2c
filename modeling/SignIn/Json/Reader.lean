import SignIn.Json

/-! Reading JSON from octets. A reader takes what it needs from the front and gives back the rest. -/

namespace SignIn.Json

def skipBlanks : Bytes → Bytes
  | b :: r => if b = 0x20 ∨ b = 0x09 ∨ b = 0x0A ∨ b = 0x0D then skipBlanks r else b :: r
  | [] => []

def hexValue? (b : UInt8) : Option Nat :=
  if 0x30 ≤ b ∧ b ≤ 0x39 then some (b.toNat - 48)
  else if 0x41 ≤ b ∧ b ≤ 0x46 then some (b.toNat - 55)
  else if 0x61 ≤ b ∧ b ≤ 0x66 then some (b.toNat - 87)
  else none

def unit? (a b c d : UInt8) : Option Piece := do
  let n := ((← hexValue? a) * 16 + (← hexValue? b)) * 256 + (← hexValue? c) * 16 + (← hexValue? d)
  return if n < 0x80 then .octet (.ofNat n) else .unit n

/-- What a backslash and this octet stand for. -/
def escaped? (b : UInt8) : Option UInt8 :=
  if b = 0x22 ∨ b = 0x5C ∨ b = 0x2F then some b
  else if b = 0x62 then some 0x08
  else if b = 0x66 then some 0x0C
  else if b = 0x6E then some 0x0A
  else if b = 0x72 then some 0x0D
  else if b = 0x74 then some 0x09
  else none

/-- The rest of a string whose opening quote is read. -/
def readString : Bytes → Option (Pieces × Bytes)
  | [] => none
  | 0x22 :: r => some ([], r)
  | 0x5C :: 0x75 :: a :: b :: c :: d :: r => do
    let p ← unit? a b c d
    let (s, r) ← readString r
    return (p :: s, r)
  | 0x5C :: b :: r => do
    let b ← escaped? b
    let (s, r) ← readString r
    return (.octet b :: s, r)
  | b :: r =>
    if b < 0x20 ∨ b = 0x5C then none
    else do
      let (s, r) ← readString r
      return (.octet b :: s, r)

def isDigit (b : UInt8) : Bool := 0x30 ≤ b && b ≤ 0x39

def number (ds : Bytes) : Nat := ds.foldl (fun n b => n * 10 + (b.toNat - 48)) 0

def takeDigits (s : Bytes) : Bytes × Bytes := (s.takeWhile isDigit, s.dropWhile isDigit)

/-- The digits after a point, if there is one. -/
def readFraction : Bytes → Option (Option Bytes × Bytes)
  | 0x2E :: r =>
    let (ds, r) := takeDigits r
    if ds = [] then none else some (some ds, r)
  | s => some (none, s)

def readSign : Bytes → Bool × Bytes
  | 0x2B :: r => (false, r)
  | 0x2D :: r => (true, r)
  | s => (false, s)

def readExponent : Bytes → Option (Option Int × Bytes)
  | b :: r =>
    if b = 0x65 ∨ b = 0x45 then
      let (negative, r) := readSign r
      let (ds, r) := takeDigits r
      if ds = [] then none else some (some (if negative then -number ds else number ds), r)
    else some (none, b :: r)
  | [] => some (none, [])

def ofParts (negative : Bool) (whole : Bytes) (fraction : Option Bytes) (exponent : Option Int) : Json :=
  if fraction = none ∧ exponent = none ∧ ¬(negative ∧ number whole = 0) then
    .int (if negative then -number whole else number whole)
  else
    let f := fraction.getD []
    .real negative (number (whole ++ f)) (exponent.getD 0 - f.length)

def readNumber (s : Bytes) : Option (Json × Bytes) := do
  let (negative, s) := match s with
    | 0x2D :: r => (true, r)
    | s => (false, s)
  let (whole, s) := takeDigits s
  if whole = [] ∨ (whole.head? = some 0x30 ∧ whole.length ≠ 1) then none
  else
    let (fraction, s) ← readFraction s
    let (exponent, s) ← readExponent s
    return (ofParts negative whole fraction exponent, s)

mutual

def readValue : Nat → Bytes → Option (Json × Bytes)
  | 0, _ => none
  | fuel + 1, s =>
    match skipBlanks s with
    | 0x6E :: 0x75 :: 0x6C :: 0x6C :: r => some (.null, r)
    | 0x74 :: 0x72 :: 0x75 :: 0x65 :: r => some (.bool true, r)
    | 0x66 :: 0x61 :: 0x6C :: 0x73 :: 0x65 :: r => some (.bool false, r)
    | 0x22 :: r => (readString r).map fun p => (.text p.1, p.2)
    | 0x5B :: r =>
      match skipBlanks r with
      | 0x5D :: r => some (.array [], r)
      | r => (readElements fuel r).map fun p => (.array p.1, p.2)
    | 0x7B :: r =>
      match skipBlanks r with
      | 0x7D :: r => some (.object [], r)
      | r => (readMembers fuel r).map fun p => (.object p.1, p.2)
    | r => readNumber r

/-- One element or more, and the bracket that closes them. -/
def readElements : Nat → Bytes → Option (List Json × Bytes)
  | 0, _ => none
  | fuel + 1, s => do
    let (v, r) ← readValue fuel s
    match skipBlanks r with
    | 0x5D :: r => some ([v], r)
    | 0x2C :: r => (readElements fuel r).map fun p => (v :: p.1, p.2)
    | _ => none

/-- One member or more, and the brace that closes them. -/
def readMembers : Nat → Bytes → Option (List (Pieces × Json) × Bytes)
  | 0, _ => none
  | fuel + 1, s =>
    match skipBlanks s with
    | 0x22 :: r => do
      let (k, r) ← readString r
      match skipBlanks r with
      | 0x3A :: r => do
        let (v, r) ← readValue fuel r
        match skipBlanks r with
        | 0x7D :: r => some ([(k, v)], r)
        | 0x2C :: r => (readMembers fuel r).map fun p => ((k, v) :: p.1, p.2)
        | _ => none
      | _ => none
    | _ => none

end

/-- The one value that a text holds, between blanks. -/
def ofBytes? (s : Bytes) : Option Json := do
  let (v, r) ← readValue (2 * s.length + 2) s
  if skipBlanks r = [] then some v else none

end SignIn.Json
