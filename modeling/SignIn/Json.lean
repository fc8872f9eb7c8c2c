import SignIn.Bytes
import SignIn.Text.Digits

/-! JSON values as they stand in a text. A string keeps its octets and its escaped UTF-16 units: whether they
make a text is asked only of the strings that are read. -/

namespace SignIn

/-- A part of a string: an octet, or an escaped UTF-16 unit from 0x80 on. -/
inductive Piece where
  | octet (b : UInt8)
  | unit (n : Nat)
  deriving DecidableEq

abbrev Pieces := List Piece

inductive Json where
  | null
  | bool (b : Bool)
  | int (n : Int)
  /-- `mantissa * 10 ^ exponent`, written with a fraction or an exponent, or as a negative zero -/
  | real (negative : Bool) (mantissa : Nat) (exponent : Int)
  | text (s : Pieces)
  | array (l : List Json)
  | object (l : List (Pieces × Json))
  deriving Inhabited

namespace Pieces

def isHigh (n : Nat) : Bool := 0xD800 ≤ n && n < 0xDC00

def isLow (n : Nat) : Bool := 0xDC00 ≤ n && n < 0xE000

def ofText (s : String) : Pieces := (Bytes.ofText s).map .octet

/-- The octets that the pieces stand for, unless a surrogate stands alone. -/
def bytes? : Pieces → Option Bytes
  | [] => some []
  | .octet b :: r => (bytes? r).map (b :: ·)
  | .unit n :: .unit k :: r =>
    if isHigh n then
      if isLow k then
        (bytes? r).map (String.utf8EncodeChar (.ofNat (0x10000 + (n - 0xD800) * 1024 + (k - 0xDC00))) ++ ·)
      else none
    else if isLow n then none
    else (bytes? (.unit k :: r)).map (String.utf8EncodeChar (.ofNat n) ++ ·)
  | .unit n :: r =>
    if isHigh n || isLow n then none else (bytes? r).map (String.utf8EncodeChar (.ofNat n) ++ ·)

def text? (s : Pieces) : Option String := s.bytes?.bind Bytes.text?

@[simp] theorem bytes?_map_octet (b : Bytes) : bytes? (b.map .octet) = some b := by
  induction b <;> simp [bytes?, *]

@[simp] theorem text?_ofText (s : String) : text? (ofText s) = some s := by simp [text?, ofText]

end Pieces

namespace Json

def string (s : String) : Json := .text (.ofText s)

def members (l : List (String × Json)) : Json := .object (l.map fun m => (.ofText m.1, m.2))

def text? : Json → Option String
  | .text s => s.text?
  | _ => none

def int64? : Json → Option Int64
  | .int n => SignIn.int64? n
  | _ => none

/-- The name of an alternative without data: a string, or an object that maps it to null. -/
def alternative? : Json → Option String
  | .text s => s.text?
  | .object [(k, .null)] => k.text?
  | _ => none

def list? : Json → Option (List Json)
  | .array l => some l
  | _ => none

/-- Reads what may be absent or null. -/
def optional? {α : Type} (read : Json → Option α) : Option Json → Option (Option α)
  | none => some none
  | some .null => some none
  | some v => (read v).map some

mutual

def depth : Json → Nat
  | .array l => depthOfList l + 1
  | .object l => depthOfMembers l + 1
  | _ => 0

def depthOfList : List Json → Nat
  | [] => 0
  | v :: r => max (depth v) (depthOfList r)

def depthOfMembers : List (Pieces × Json) → Nat
  | [] => 0
  | (_, v) :: r => max (depth v) (depthOfMembers r)

end

/-- The values of the named members of a record: an object with legible keys and none of the names twice, or an
array that has exactly one value for each name. -/
def record? (names : List String) : Json → Option (List (Option Json))
  | .array l => if l.length = names.length then some (l.map some) else none
  | .object l => do
    let keyed ← l.mapM fun m => m.1.text?.map fun k => (k, m.2)
    let known := (keyed.map (·.1)).filter (· ∈ names)
    if known.Nodup then some (names.map fun n => (keyed.find? (·.1 = n)).map (·.2)) else none
  | _ => none

@[simp] theorem text?_string (s : String) : (string s).text? = some s := by simp [string, text?]

@[simp] theorem int64?_int_toInt (n : Int64) : (Json.int n.toInt).int64? = some n := int64?_toInt n

end Json
end SignIn
