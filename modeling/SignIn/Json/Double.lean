import SignIn.Double
import SignIn.Json

/-! Numbers of JSON in double precision. The leading digits that fit into 64 bits are rounded first and then
multiplied or divided by a rounded power of ten, so the result is not always the nearest number. -/

namespace SignIn.Json

/-- The leading digits, and how many others there are. -/
def leading (m : Nat) : Nat × Nat :=
  if m < UInt64.size then (m, 0)
  else
    let (n, k) := leading (m / 10)
    (n, k + 1)
termination_by m
decreasing_by
  have : UInt64.size = 18446744073709551616 := rfl
  omega

/-- A power of ten as a rounded number. -/
def tenPower (k : Nat) : Nat × Nat :=
  match Double.ofDecimal false 1 k with
  | .finite _ m e => Double.ratio m e
  | _ => (1, 1)

def largestPower : Nat := 308

/-- Divides by a power of ten, in steps. After three of them nothing is left. -/
def divide : Nat → Double → Nat → Double
  | 0, x, _ => x.scale 0 1
  | n + 1, x, k =>
    let (p, q) := tenPower (min k largestPower)
    let y := x.scale q p
    if k ≤ largestPower then y else divide n y (k - largestPower)

/-- There is none if the number is too large. -/
def scaled? (negative : Bool) (m : Nat) (e : Int) : Option Double :=
  let (n, k) := leading m
  let e := e + k
  let x := Double.ofRatio negative n 1
  if n = 0 then some x
  else if e < 0 then some (divide 3 x (-e).toNat)
  else if e > largestPower then none
  else
    let (p, q) := tenPower e.toNat
    match x.scale p q with
    | .infinite _ => none
    | y => some y

end SignIn.Json
