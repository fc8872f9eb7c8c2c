/-! Sets of characters given by the code points at which membership changes. -/

namespace SignIn

/-- Strictly increasing code points; the first is in the set, the second is not, and so on. -/
structure Boundaries where
  points : Array Nat

namespace Boundaries

/-- How many points are at most `n`, found by halving; `fuel` bounds the halvings. -/
def rank (b : Boundaries) (n : Nat) : Nat → Nat → Nat → Nat
  | 0, lo, _ => lo
  | fuel + 1, lo, hi =>
    if lo < hi then
      let mid := (lo + hi) / 2
      if b.points.getD mid 0 ≤ n then rank b n fuel (mid + 1) hi else rank b n fuel lo mid
    else lo

def contains (b : Boundaries) (c : Char) : Bool :=
  b.rank c.toNat 24 0 b.points.size % 2 = 1

end Boundaries
end SignIn
