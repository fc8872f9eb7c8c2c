import SignIn.Database.Statement

/-! What is said between a program and a database, whatever the database answers. -/

namespace SignIn

/-- A statement, and what came back. -/
structure Sent where
  statement : Statement
  reply : Except DatabaseError Outcome

namespace Program

variable {α β : Type} {p : Program ExchangeQuery.Reply α} {Q R : List Sent → α → Prop}

/-- Whatever comes back, the program gets to its end, and `Q` holds of what was said and of the result. -/
def Ends : Program ExchangeQuery.Reply α → (List Sent → α → Prop) → Prop
  | .done a, Q => Q [] a
  | .halt, _ => False
  | .call (.send s) next, Q => ∀ r, (next r).Ends fun said => Q (⟨s, r⟩ :: said)
  | .call (.log _) next, Q => (next ()).Ends Q

theorem Ends.mono (h : p.Ends Q) (hQ : ∀ said a, Q said a → R said a) : p.Ends R := by
  induction p generalizing Q R with
  | done a => exact hQ _ _ h
  | halt => exact h
  | call q next ih =>
    cases q with
    | send s => exact fun r => ih r (h r) fun said => hQ (⟨s, r⟩ :: said)
    | log l => exact ih () h hQ

theorem Ends.bind {f : α → Program ExchangeQuery.Reply β} {S : List Sent → β → Prop}
    (h : p.Ends fun said a => (f a).Ends fun more => S (said ++ more)) : (p >>= f).Ends S := by
  show (p.bind f).Ends S
  induction p generalizing S with
  | done a => exact h
  | halt => exact h
  | call q next ih =>
    cases q with
    | send s => exact fun r => ih r (h r)
    | log l => exact ih () h

end Program

/-- One end of a connection: what the database keeps, and what was said so far. -/
structure Connection (σ : Type) where
  database : σ
  said : List Sent := []

def Connection.answer {σ : Type} (serve : Statement → σ → Except DatabaseError Outcome × σ) (q : ExchangeQuery)
    (c : Connection σ) : Option q.Reply × Connection σ :=
  match q with
  | .send s => (some (serve s c.database).1, ⟨(serve s c.database).2, c.said ++ [⟨s, (serve s c.database).1⟩]⟩)
  | .log _ => (some (), c)

theorem Program.Ends.run {α σ : Type} {p : Program ExchangeQuery.Reply α} {Q : List Sent → α → Prop} (h : p.Ends Q)
    (serve : Statement → σ → Except DatabaseError Outcome × σ) (c : Connection σ) :
    ∃ a said t, p.run (Connection.answer serve) c = (some a, ⟨t, c.said ++ said⟩) ∧ Q said a := by
  induction p generalizing Q c with
  | done a => exact ⟨a, [], c.database, by rw [List.append_nil]; rfl, h⟩
  | halt => exact h.elim
  | call q next ih =>
    cases q with
    | send s =>
      obtain ⟨a, said, t, hrun, hQ⟩ := ih (serve s c.database).1 (h _)
        ⟨(serve s c.database).2, c.said ++ [⟨s, (serve s c.database).1⟩]⟩
      rw [List.append_assoc] at hrun
      exact ⟨a, _ :: said, t, hrun, hQ⟩
    | log l => exact ih () h c

namespace Exchange

variable {α β : Type} {x : Exchange α} {Q R : List Sent → Except DatabaseError α → Prop}

abbrev Ends (x : Exchange α) (Q : List Sent → Except DatabaseError α → Prop) : Prop := Program.Ends x.run Q

theorem ends_send (s : Statement) : Ends (send s) fun said r => said = [⟨s, r⟩] := fun _ => rfl

theorem ends_note (level : Level) (text : String) : Ends (note level text) fun said r => said = [] ∧ r = .ok () :=
  ⟨rfl, rfl⟩

theorem ends_liftExcept {r : Except DatabaseError α} (h : Q [] r) : Ends (liftExcept r) Q := by
  cases r <;> exact h

theorem Ends.bind {f : α → Exchange β} {S : List Sent → Except DatabaseError β → Prop} (h : Ends x Q)
    (hok : ∀ said a, Q said (.ok a) → Ends (f a) fun more => S (said ++ more))
    (herr : ∀ said e, Q said (.error e) → S said (.error e)) : Ends (x >>= f) S := by
  refine Program.Ends.bind (Program.Ends.mono h fun said r hr => ?_)
  cases r with
  | ok a => exact hok said a hr
  | error e =>
    show S (said ++ []) (.error e)
    rw [List.append_nil]
    exact herr said e hr

theorem Ends.handle {f : DatabaseError → Exchange α} (h : Ends x Q) (hok : ∀ said a, Q said (.ok a) → R said (.ok a))
    (herr : ∀ said e, Q said (.error e) → Ends (f e) fun more => R (said ++ more)) : Ends (tryCatch x f) R := by
  refine Program.Ends.bind (Program.Ends.mono h fun said r hr => ?_)
  cases r with
  | ok a =>
    show R (said ++ []) (.ok a)
    rw [List.append_nil]
    exact hok said a hr
  | error e => exact herr said e hr

/-- The program says nothing to the database. -/
abbrev Silent (x : Exchange α) : Prop := Ends x fun said _ => said = []

theorem Ends.bind_silent {f : α → Exchange β} {P : List Sent → Prop} (h : Ends x fun said _ => P said)
    (hf : ∀ a, Silent (f a)) : Ends (x >>= f) fun said _ => P said := by
  refine .bind h (fun said a hs => ?_) fun _ _ hs => hs
  refine Program.Ends.mono (hf a) fun more _ hm => ?_
  rw [hm, List.append_nil]
  exact hs

theorem Ends.handle_silent {f : DatabaseError → Exchange α} {P : List Sent → Prop} (h : Ends x fun said _ => P said)
    (hf : ∀ e, Silent (f e)) : Ends (tryCatch x f) fun said _ => P said := by
  refine .handle h (fun _ _ hs => hs) fun said e hs => ?_
  refine Program.Ends.mono (hf e) fun more _ hm => ?_
  rw [hm, List.append_nil]
  exact hs

/-- The result is looked at, and not passed on where it is an error. -/
theorem Ends.lift {f : Except DatabaseError α → Exchange β} {S : List Sent → Except DatabaseError β → Prop}
    (h : Ends x fun said r => Ends (f r) fun more => S (said ++ more)) : Ends (ExceptT.lift x.run >>= f) S := by
  refine Program.Ends.bind (Program.Ends.bind (Program.Ends.mono h fun said r hr => ?_))
  show (f r).Ends fun more => S (said ++ [] ++ more)
  rw [List.append_nil]
  exact hr

/-- A statement whose failure is dealt with on the spot. -/
theorem ends_handle_send {s : Statement} {f : DatabaseError → Exchange Unit}
    {S : List Sent → Except DatabaseError Unit → Prop}
    (hok : ∀ o, S [⟨s, .ok o⟩] (.ok ())) (herr : ∀ e, Ends (f e) fun more => S (⟨s, .error e⟩ :: more)) :
    Ends (tryCatch (do let _ ← send s) f) S := by
  intro r
  cases r with
  | ok o => exact hok o
  | error e => exact herr e

theorem ends_abandon (e : DatabaseError) :
    Ends (abandon (α := α) e) fun said r => ∃ o, said = [⟨.rollback, o⟩] ∧ r = .error e := by
  refine .bind (Q := fun said r => ∃ o, said = [⟨.rollback, o⟩] ∧ r = .ok ()) ?_ ?_ ?_
  · exact ends_handle_send (fun o => ⟨.ok o, rfl, rfl⟩) fun e => ⟨.error e, rfl, rfl⟩
  · rintro said _ ⟨o, rfl, -⟩
    exact ⟨o, rfl, rfl⟩
  · rintro said _ ⟨o, -, ⟨⟩⟩

/-- The courses that a transaction takes whose own part is `Q`. -/
inductive Transacts (Q : List Sent → Except DatabaseError α → Prop) : List Sent → Except DatabaseError α → Prop
  | refused (e : DatabaseError) (r : Except DatabaseError Outcome) :
    Transacts Q [⟨.start, .error e⟩, ⟨.rollback, r⟩] (.error e)
  | kept {said : List Sent} {a : α} (b c : Outcome) : Q said (.ok a) →
    Transacts Q (⟨.start, .ok b⟩ :: said ++ [⟨.commit, .ok c⟩]) (.ok a)
  | lost {said : List Sent} {a : α} (b : Outcome) (e : DatabaseError) (r : Except DatabaseError Outcome) :
    Q said (.ok a) → Transacts Q (⟨.start, .ok b⟩ :: said ++ [⟨.commit, .error e⟩, ⟨.rollback, r⟩]) (.error e)
  | undone {said : List Sent} {e : DatabaseError} (b c : Outcome) : Q said (.error e) →
    Transacts Q (⟨.start, .ok b⟩ :: said ++ [⟨.rollback, .ok c⟩]) (.error e)
  | stuck {said : List Sent} {e : DatabaseError} (b : Outcome) (e' : DatabaseError)
    (r : Except DatabaseError Outcome) : Q said (.error e) →
    Transacts Q (⟨.start, .ok b⟩ :: said ++ [⟨.rollback, .error e'⟩, ⟨.rollback, r⟩]) (.error e')

theorem ends_sendOrAbandon (s : Statement) :
    Ends (tryCatch (do let _ ← send s) fun e => abandon e) fun said r =>
      (∃ o, said = [⟨s, .ok o⟩] ∧ r = .ok ()) ∨
        ∃ e o, said = [⟨s, .error e⟩, ⟨.rollback, o⟩] ∧ r = .error e := by
  refine ends_handle_send (fun o => .inl ⟨o, rfl, rfl⟩) fun e => Program.Ends.mono (ends_abandon e) ?_
  rintro more r ⟨o, rfl, rfl⟩
  exact .inr ⟨e, o, rfl, rfl⟩

theorem ends_transaction {x : Exchange α} (h : Ends x Q) : Ends (transaction x) (Transacts Q) := by
  refine .bind (ends_sendOrAbandon .start) ?_ ?_
  · rintro _ _ (⟨b, rfl, -⟩ | ⟨e, o, -, ⟨⟩⟩)
    refine .lift (Program.Ends.mono h fun said r hr => ?_)
    cases r with
    | ok a =>
      refine .bind (ends_sendOrAbandon .commit) ?_ ?_
      · rintro _ _ (⟨c, rfl, -⟩ | ⟨e, o, -, ⟨⟩⟩)
        exact .kept b c hr
      · rintro _ e (⟨c, -, ⟨⟩⟩ | ⟨e, o, rfl, ⟨⟩⟩)
        exact .lost b e o hr
    | error e =>
      -- what failed has to be undone before it is told of
      refine .bind (ends_sendOrAbandon .rollback) ?_ ?_
      · rintro _ _ (⟨c, rfl, -⟩ | ⟨e, o, -, ⟨⟩⟩)
        exact .undone b c hr
      · rintro _ e (⟨c, -, ⟨⟩⟩ | ⟨e, o, rfl, ⟨⟩⟩)
        exact .stuck b e o hr
  · rintro _ e (⟨c, -, ⟨⟩⟩ | ⟨e, o, rfl, ⟨⟩⟩)
    exact .refused e o

end Exchange
end SignIn
