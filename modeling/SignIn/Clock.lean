/-! Time in whole milliseconds: an instant counts from the start of 1970, a span from one instant to another. -/

namespace SignIn

namespace Span

/-- The longest span, in either direction. -/
def limit : Int := 0x7FFFFFFFFFFFFFFF

def ofMillis? (n : Int) : Option Int := if -limit ≤ n ∧ n ≤ limit then some n else none

def minutes? (n : Int) : Option Int := ofMillis? (n * 60000)

def hours? (n : Int) : Option Int := ofMillis? (n * 3600000)

end Span

namespace Instant

/-- The first moment of the year -262143. -/
def earliest : Int := -8334601228800000

/-- The last millisecond of the year 262142. -/
def latest : Int := 8210266876799999

/-- The instant a span later, if the calendar has it. -/
def after? (t d : Int) : Option Int := if earliest ≤ t + d ∧ t + d ≤ latest then some (t + d) else none

/-- Whole seconds since the start of 1970, downwards. -/
def seconds (t : Int) : Int := t / 1000

theorem after?_eq_some_iff {t d u : Int} :
    after? t d = some u ↔ u = t + d ∧ earliest ≤ u ∧ u ≤ latest := by
  unfold after?
  split <;> simp only [Option.some.injEq, reduceCtorEq, false_iff] <;> omega

end Instant

/-- A value with a deadline. -/
structure Expiring (α : Type) where
  value : α
  expiresAt : Int
  deriving DecidableEq

namespace Expiring

variable {α : Type}

/-- Kept until `d` after `now`; nothing where the calendar ends before. -/
def until? (now d : Int) (a : α) : Option (Expiring α) := (Instant.after? now d).map fun t => ⟨a, t⟩

def isExpired (e : Expiring α) (now : Int) : Bool := e.expiresAt ≤ now

/-- The value, before its deadline. -/
def live? (e : Expiring α) (now : Int) : Option α := if e.isExpired now then none else some e.value

@[simp] theorem isExpired_iff {e : Expiring α} {now : Int} : e.isExpired now = true ↔ e.expiresAt ≤ now := by
  simp [isExpired]

theorem live?_eq_some_iff {e : Expiring α} {now : Int} {a : α} :
    e.live? now = some a ↔ now < e.expiresAt ∧ e.value = a := by
  by_cases h : e.expiresAt ≤ now
  · simp [live?, h, Int.not_lt.2 h]
  · simp [live?, h, Int.not_le.1 h]

end Expiring
end SignIn
