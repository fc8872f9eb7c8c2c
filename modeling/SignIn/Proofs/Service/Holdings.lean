import SignIn.Proofs.Service.Run

/-! A deployment without its log, and what operations do to it. Nothing that is asked depends on the log. -/

namespace SignIn

/-- Whatever holds of each answer through a view of the state holds of a whole run. -/
theorem Program.run_map {ι : Type} {ρ : ι → Type} {α σ τ : Type} (view : σ → τ)
    {answer : (i : ι) → σ → Option (ρ i) × σ} {answer' : (i : ι) → τ → Option (ρ i) × τ}
    (h : ∀ i s, answer' i (view s) = ((answer i s).1, view (answer i s).2)) (p : Program ρ α) (s : σ) :
    p.run answer' (view s) = ((p.run answer s).1, view (p.run answer s).2) := by
  induction p generalizing s with
  | done a => rfl
  | halt => rfl
  | call i next ih =>
    simp only [run, h]
    cases answer i s with
    | mk o t => cases o with
      | none => rfl
      | some x => exact ih x t

structure Holdings where
  now : Int
  accounts : Directory
  sessions : SessionStore
  codes : PasscodeStore
  ids : Nat
  draws : Nat
  salts : Nat
  outbox : List Message

def World.holdings (w : World Directory) : Holdings :=
  ⟨w.now, w.accounts, w.sessions, w.codes, w.ids, w.draws, w.salts, w.outbox⟩

namespace Holdings

variable {α β : Type} {src : Sources} {w : Holdings}

def answer (src : Sources) (q : Query) (w : Holdings) : Option q.Reply × Holdings :=
  match q with
  | .clock => (some w.now, w)
  | .mintId => (some (src.ids w.ids), { w with ids := w.ids + 1 })
  | .drawCode => (some (src.codes w.draws), { w with draws := w.draws + 1 })
  | .drawSalt => (some (src.salts w.salts), { w with salts := w.salts + 1 })
  | .accounts c => ((w.accounts.answer c w.now).1, { w with accounts := (w.accounts.answer c w.now).2 })
  | .sessions c => ((w.sessions.answer c w.now).1, { w with sessions := (w.sessions.answer c w.now).2 })
  | .codes c => ((w.codes.answer c w.now).1, { w with codes := (w.codes.answer c w.now).2 })
  | .post m => (some (), { w with outbox := w.outbox ++ [m] })
  | .send m => (some (src.carrier.send m).2, w)
  | .log _ => (some (), w)

theorem answer_holdings (src : Sources) (q : Query) (w : World Directory) :
    answer src q w.holdings = ((w.answer src q).1, (w.answer src q).2.holdings) := by
  cases q <;> rfl

def exec (src : Sources) (op : Operation α) (w : Holdings) : Option (Except ServiceError α) × Holdings :=
  op.run.run (answer src) w

theorem exec_holdings (src : Sources) (op : Operation α) (w : World Directory) :
    exec src op w.holdings = ((op.run.run (World.answer src) w).1, (op.run.run (World.answer src) w).2.holdings) :=
  Program.run_map World.holdings (answer_holdings src) op.run w

theorem exec_bind (op : Operation α) (f : α → Operation β) :
    exec src (op >>= f) w =
      match exec src op w with
      | (some (.ok a), w) => exec src (f a) w
      | (some (.error e), w) => (some (.error e), w)
      | (none, w) => (none, w) := by
  unfold exec
  rw [show (op >>= f).run = op.run >>= ExceptT.bindCont f from rfl, Program.run_bind]
  cases op.run.run (answer src) w with
  | mk o w => cases o with
    | none => rfl
    | some r => cases r <;> rfl

end Holdings
end SignIn
