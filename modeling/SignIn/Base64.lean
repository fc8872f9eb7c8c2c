import SignIn.Bytes

/-! Base64 without padding. Reading is strict: unused low bits of the last digit are zero. -/

namespace SignIn

/-- The two digits in which the variants differ. -/
structure Base64 where
  plus : Char
  slash : Char

namespace Base64

def standard : Base64 := ⟨'+', '/'⟩

def url : Base64 := ⟨'-', '_'⟩

def digit (v : Base64) (n : Nat) : Char :=
  if n < 26 then Char.ofNat (65 + n)
  else if n < 52 then Char.ofNat (71 + n)
  else if n < 62 then Char.ofNat (n - 4)
  else if n = 62 then v.plus else v.slash

def value? (v : Base64) (c : Char) : Option Nat :=
  if 'A' ≤ c ∧ c ≤ 'Z' then some (c.toNat - 65)
  else if 'a' ≤ c ∧ c ≤ 'z' then some (c.toNat - 71)
  else if '0' ≤ c ∧ c ≤ '9' then some (c.toNat + 4)
  else if c = v.plus then some 62
  else if c = v.slash then some 63
  else none

def encode (v : Base64) : Bytes → List Char
  | a :: b :: c :: r =>
    let n := a.toNat * 65536 + b.toNat * 256 + c.toNat
    v.digit (n / 262144) :: v.digit (n / 4096 % 64) :: v.digit (n / 64 % 64) :: v.digit (n % 64) :: encode v r
  | [a, b] =>
    let n := a.toNat * 1024 + b.toNat * 4
    [v.digit (n / 4096), v.digit (n / 64 % 64), v.digit (n % 64)]
  | [a] => [v.digit (a.toNat / 4), v.digit (a.toNat % 4 * 16)]
  | [] => []

def decode? (v : Base64) : List Char → Option Bytes
  | a :: b :: c :: d :: r => do
    let n := (← v.value? a) * 262144 + (← v.value? b) * 4096 + (← v.value? c) * 64 + (← v.value? d)
    return .ofNat (n / 65536) :: .ofNat (n / 256) :: .ofNat n :: (← decode? v r)
  | [a, b, c] => do
    let n := (← v.value? a) * 4096 + (← v.value? b) * 64 + (← v.value? c)
    if n % 4 = 0 then some [.ofNat (n / 1024), .ofNat (n / 4)] else none
  | [a, b] => do
    let n := (← v.value? a) * 64 + (← v.value? b)
    if n % 16 = 0 then some [.ofNat (n / 16)] else none
  | [_] => none
  | [] => some []

end Base64
end SignIn
