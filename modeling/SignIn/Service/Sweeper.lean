import SignIn.Service.Query

/-! The sweeper, which drops expired sessions and codes at regular times. -/

namespace SignIn

/-- Sessions first, then codes, whatever becomes of the sessions. -/
def sweep : Program Query.Reply Unit := do
  match ← (Query.sessions .purge).ask with
  | .ok 0 => pure ()
  | .ok n => Query.note .debug s!"Swept {n} expired sessions"
  | .error e => Query.note .error s!"Session sweep failed: {e.message}"
  match ← (Query.codes .purge).ask with
  | .ok 0 => pure ()
  | .ok n => Query.note .debug s!"Swept {n} expired verification codes"
  | .error e => Query.note .error s!"Verification code sweep failed: {e.message}"

/-- The time between sweeps, and the time since the last one, if there was one. -/
structure Sweeper where
  every : Nat
  since : Option Nat := none
  deriving DecidableEq

namespace Sweeper

/-- A sweeper needs some time between its sweeps. -/
def start? (every : Nat) : Option Sweeper := if every = 0 then none else some { every }

def wait (s : Sweeper) (d : Nat) : Sweeper := { s with since := s.since.map (· + d) }

/-- The first sweep is due at once. However late a sweep is, the next one is counted from it. -/
def isDue (s : Sweeper) : Bool := s.since.all (s.every ≤ ·)

def swept (s : Sweeper) : Sweeper := { s with since := some 0 }

end Sweeper
end SignIn
