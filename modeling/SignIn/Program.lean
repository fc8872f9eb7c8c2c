/-! Programs that ask for what they need. Whoever answers keeps a state of their own, and may let a program halt. -/

namespace SignIn

/-- A program that asks `i : ι` and goes on with a `ρ i`. -/
inductive Program {ι : Type} (ρ : ι → Type) (α : Type) where
  | done (a : α)
  | halt
  | call (i : ι) (next : ρ i → Program ρ α)

namespace Program

variable {ι : Type} {ρ : ι → Type} {α β σ : Type}

protected def bind (p : Program ρ α) (f : α → Program ρ β) : Program ρ β :=
  match p with
  | .done a => f a
  | .halt => .halt
  | .call i next => .call i fun x => (next x).bind f

instance : Monad (Program ρ) where
  pure := .done
  bind := Program.bind

def request (i : ι) : Program ρ (ρ i) := .call i .done

/-- What is missing cannot be done without. -/
def require : Option α → Program ρ α
  | none => .halt
  | some a => .done a

/-- Runs a program to its end, or until it halts. -/
def run (answer : (i : ι) → σ → Option (ρ i) × σ) : Program ρ α → σ → Option α × σ
  | .done a, s => (some a, s)
  | .halt, s => (none, s)
  | .call i next, s =>
    match answer i s with
    | (none, s) => (none, s)
    | (some x, s) => (next x).run answer s

@[simp] theorem run_pure (answer : (i : ι) → σ → Option (ρ i) × σ) (a : α) (s : σ) :
    run answer (pure a) s = (some a, s) := rfl

theorem run_bind (answer : (i : ι) → σ → Option (ρ i) × σ) (p : Program ρ α) (f : α → Program ρ β) (s : σ) :
    run answer (p >>= f) s =
      match run answer p s with
      | (none, s) => (none, s)
      | (some a, s) => run answer (f a) s := by
  show run answer (p.bind f) s = _
  induction p generalizing s with
  | done a => rfl
  | halt => rfl
  | call i next ih =>
    simp only [Program.bind, run]
    cases answer i s with
    | mk o t => cases o with
      | none => rfl
      | some x => exact ih x t

instance : LawfulMonad (Program ρ) := .mk' _
  (fun p => by
    show p.bind _ = p
    induction p with
    | done a => rfl
    | halt => rfl
    | call i next ih => simp only [Program.bind] at ih ⊢; congr; funext x; exact ih x)
  (fun _ _ => rfl)
  (fun p f g => by
    show (p.bind f).bind g = p.bind fun a => (f a).bind g
    induction p with
    | done a => rfl
    | halt => rfl
    | call i next ih => simp only [Program.bind]; congr; funext x; exact ih x)

end Program
end SignIn
