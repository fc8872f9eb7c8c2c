import SignIn.Double
import SignIn.Text.Digits

/-! Numbers as texts. A text has the fewest digits that read back, and no exponent. -/

namespace SignIn.Double

/-- The decimal point stands after so many digits; it is before the first one if there are less than none. -/
def magnitude (n d : Nat) : Int := (digits (n * Nat.pow 10 340 / d)).length - 340

/-- Multiples of `10 ^ k` next to a number, of which one that is read as the number. Of two the nearer is
taken, the upper one if they are equally near. -/
def onGrid? (m : Nat) (e k : Int) : Option Nat :=
  let (a, b) := ratio 1 (e - 2)
  let (p, q) := power 10 k
  let scale (x : Nat) : Nat := x * a * q
  let unit := p * b
  let below := if m = leastFull ∧ e ≠ minExponent then 4 * m - 1 else 4 * m - 2
  let reads (c : Nat) : Bool :=
    let x := c * unit
    if m % 2 = 0 then scale below ≤ x && x ≤ scale (4 * m + 2) else scale below < x && x < scale (4 * m + 2)
  let value := scale (4 * m)
  let c := value / unit
  if reads c ∧ (!reads (c + 1) ∨ value - c * unit < (c + 1) * unit - value) then some c
  else if reads (c + 1) then some (c + 1)
  else none

/-- The digits of a number and the exponent of the last one. Seventeen digits are enough. -/
def shortest (m : Nat) (e : Int) : Nat × Int :=
  let (n, d) := ratio m e
  let top := magnitude n d
  let grid (i : Nat) : Int := top - i
  ((List.range 18).findSome? fun i => (onGrid? m e (grid i)).map fun c => (c, grid i)).getD (m, e)

/-- `c * 10 ^ k` without an exponent. -/
def positional (c : Nat) (k : Int) : List Char :=
  let ds := digits c
  if k < 0 then
    let n := (-k).toNat
    let ds := List.replicate (n + 1 - ds.length) '0' ++ ds
    ds.take (ds.length - n) ++ '.' :: ds.drop (ds.length - n)
  else ds ++ List.replicate k.toNat '0'

def text : Double → String
  | .nan => "NaN"
  | .infinite s => if s then "-inf" else "inf"
  | .finite s m e =>
    let body := if m = 0 then ['0'] else
      let (c, k) := shortest m e
      positional c k
    .ofList (if s then '-' :: body else body)

def exponent? : List Char → Option Int
  | [] => some 0
  | c :: r =>
    if c = 'e' ∨ c = 'E' then
      let (s, ds) := Text.sign r
      (Text.digits? ds).map fun n => if s then -n else n
    else none

/-- Digits with a point among them or at an end, and an exponent; or a name for what is not finite. -/
def ofText? (s : String) : Option Double := do
  let (s, r) := Text.sign s.toList
  let word := (String.ofList r).toLower
  if word = "inf" ∨ word = "infinity" then return .infinite s
  if word = "nan" then return .nan
  let whole := r.takeWhile Char.isDigit
  let r := r.dropWhile Char.isDigit
  let (fraction, r) := match r with
    | '.' :: r => (r.takeWhile Char.isDigit, r.dropWhile Char.isDigit)
    | _ => ([], r)
  if whole ++ fraction = [] then none
  else return ofDecimal s (Text.ofDigits (whole ++ fraction)) ((← exponent? r) - fraction.length)

end SignIn.Double
