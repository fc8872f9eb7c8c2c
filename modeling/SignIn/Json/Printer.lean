import SignIn.Json

/-! JSON without blanks. -/

namespace SignIn.Json

def hexDigitOctet (n : Nat) : UInt8 := if n < 10 then .ofNat (48 + n) else .ofNat (87 + n)

def printUnit (n : Nat) : Bytes :=
  [0x5C, 0x75, hexDigitOctet (n / 4096 % 16), hexDigitOctet (n / 256 % 16), hexDigitOctet (n / 16 % 16),
    hexDigitOctet (n % 16)]

def printOctet (b : UInt8) : Bytes :=
  if b = 0x22 ∨ b = 0x5C then [0x5C, b]
  else if b = 0x08 then [0x5C, 0x62]
  else if b = 0x09 then [0x5C, 0x74]
  else if b = 0x0A then [0x5C, 0x6E]
  else if b = 0x0C then [0x5C, 0x66]
  else if b = 0x0D then [0x5C, 0x72]
  else if b < 0x20 then printUnit b.toNat
  else [b]

def Piece.print : Piece → Bytes
  | .octet b => printOctet b
  | .unit n => printUnit n

def printString (s : Pieces) : Bytes := 0x22 :: (s.flatMap Piece.print ++ [0x22])

def printNat (n : Nat) : Bytes := (Nat.toDigits 10 n).map fun c => .ofNat c.toNat

def printInt (n : Int) : Bytes := if n < 0 then 0x2D :: printNat n.natAbs else printNat n.natAbs

mutual

def print : Json → Bytes
  | .null => Bytes.ofText "null"
  | .bool true => Bytes.ofText "true"
  | .bool false => Bytes.ofText "false"
  | .int n => printInt n
  | .real negative m e =>
    (if negative then [0x2D] else []) ++ printNat m ++ 0x65 :: printInt e
  | .text s => printString s
  | .array l => 0x5B :: (printElements l ++ [0x5D])
  | .object l => 0x7B :: (printMembers l ++ [0x7D])

def printElements : List Json → Bytes
  | [] => []
  | [v] => print v
  | v :: r => print v ++ 0x2C :: printElements r

def printMembers : List (Pieces × Json) → Bytes
  | [] => []
  | [(k, v)] => printString k ++ 0x3A :: print v
  | (k, v) :: r => printString k ++ 0x3A :: (print v ++ 0x2C :: printMembers r)

end

def render (v : Json) : String := (Bytes.text? v.print).getD ""

end SignIn.Json
