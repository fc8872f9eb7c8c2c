/-! Binary floating point numbers of double precision, and rounding to them. -/

namespace SignIn

inductive Double where
  /-- `significand * 2 ^ exponent`, with at most 53 bits and as many as the exponent leaves room for -/
  | finite (negative : Bool) (significand : Nat) (exponent : Int)
  | infinite (negative : Bool)
  | nan
  deriving DecidableEq

namespace Double

def minExponent : Int := -1074

def maxExponent : Int := 971

/-- The least significand of 53 bits. -/
def leastFull : Nat := 0x10000000000000

def zero (negative : Bool) : Double := .finite negative 0 minExponent

/-- `n / d` to the nearest whole number; of two equally near ones the even one. -/
def divEven (n d : Nat) : Nat :=
  let q := n / d
  let r := 2 * (n % d)
  if r > d ∨ (r = d ∧ q % 2 = 1) then q + 1 else q

/-- `n / d` to the nearest whole number; of two equally near ones the larger one. -/
def divUp (n d : Nat) : Nat := (2 * n + d) / (2 * d)

/-- `b ^ e` as a fraction. -/
def power (b : Nat) (e : Int) : Nat × Nat := if e < 0 then (1, Nat.pow b (-e).toNat) else (Nat.pow b e.toNat, 1)

/-- The largest `k` with `2 ^ k ≤ n / d`. -/
def log (n d : Nat) : Int :=
  let k : Int := n.log2 - d.log2
  let (a, b) := power 2 k
  if a * d ≤ n * b then k else k - 1

/-- The number nearest to a fraction. -/
def ofRatio (negative : Bool) (n d : Nat) : Double :=
  if n = 0 then zero negative
  else
    let e := max (log n d - 52) minExponent
    let (a, b) := power 2 e
    let s := divEven (n * b) (a * d)
    let (s, e) := if s = 2 * leastFull then (leastFull, e + 1) else (s, e)
    if e > maxExponent then .infinite negative else .finite negative s e

def digits (n : Nat) : List Char := Nat.toDigits 10 n

/-- The number nearest to `m * 10 ^ e`. -/
def ofDecimal (negative : Bool) (m : Nat) (e : Int) : Double :=
  if m = 0 then zero negative
  else
    let size := (digits m).length + e
    if size > 310 then .infinite negative
    else if size < -330 then zero negative
    else
      let (a, b) := power 10 e
      ofRatio negative (m * a) b

def ofNat (n : Nat) : Double := ofRatio false n 1

/-- A finite number as a fraction, without its sign. -/
def ratio (m : Nat) (e : Int) : Nat × Nat :=
  let (a, b) := power 2 e
  (m * a, b)

/-- The number nearest to a number times a fraction. -/
def scale (x : Double) (p q : Nat) : Double :=
  match x with
  | .finite s m e =>
    let (n, d) := ratio m e
    ofRatio s (n * p) (d * q)
  | x => x

/-- The nearest integer, halves going away from zero. What lies outside the bounds becomes a bound. -/
def round (lo hi : Int) : Double → Int
  | .finite s m e =>
    let (n, d) := ratio m e
    let n : Int := divUp n d
    max lo (min hi (if s then -n else n))
  | .infinite s => if s then lo else hi
  | .nan => 0

end Double
end SignIn
