/-! Digits, and whole numbers written with them. -/

namespace SignIn

/-- A number as a word of 64 bits, if it fits. -/
def int64? (n : Int) : Option Int64 :=
  if Int64.minValue.toInt ≤ n ∧ n ≤ Int64.maxValue.toInt then some (.ofInt n) else none

@[simp] theorem int64?_toInt (n : Int64) : int64? n.toInt = some n := by
  have h : Int64.minValue.toInt ≤ n.toInt ∧ n.toInt ≤ Int64.maxValue.toInt :=
    ⟨Int64.le_toInt n, Int64.toInt_le n⟩
  rw [int64?, if_pos h, Int64.ofInt_toInt]

namespace Text

def hexDigit? (c : Char) : Option Nat :=
  if c.isDigit then some (c.toNat - 48)
  else if 'a' ≤ c ∧ c ≤ 'f' then some (c.toNat - 87)
  else if 'A' ≤ c ∧ c ≤ 'F' then some (c.toNat - 55)
  else none

def ofDigits (ds : List Char) : Nat := ds.foldl (fun n c => n * 10 + (c.toNat - 48)) 0

def digits? (s : List Char) : Option Nat := if s ≠ [] ∧ s.all Char.isDigit then some (ofDigits s) else none

/-- A decimal number without needless zeros. -/
def decimal? (s : List Char) : Option Nat := if s.head? = some '0' → s.length = 1 then digits? s else none

/-- Whether there is a minus sign, and what follows the sign. -/
def sign : List Char → Bool × List Char
  | '-' :: r => (true, r)
  | '+' :: r => (false, r)
  | s => (false, s)

/-- A decimal number that may have a sign. -/
def integer? (s : List Char) : Option Int :=
  let (negative, r) := sign s
  (digits? r).map fun n => if negative then -n else n

/-- A decimal number that may have a plus sign. -/
def natural? : List Char → Option Nat
  | '+' :: r => digits? r
  | s => digits? s

end Text
end SignIn
