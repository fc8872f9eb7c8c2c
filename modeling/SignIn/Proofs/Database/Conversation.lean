import SignIn.Database.Script
import SignIn.Proofs.Database.Transcript

/-! What the repository says to the database, and what it tells of it. -/

namespace SignIn

/-- A call, its answer, and what was said for it. -/
structure Handled where
  call : AccountCall
  answer : Option (Except RepositoryError call.Answer)
  said : List Sent

namespace Repository

open Exchange

/-- The arguments of a call, as they go out. -/
def cells : AccountCall → List Cell
  | .byId id => [.int id]
  | .byAddress _ a => [.text a]
  | .create u => [.text u.name, textOrNull u.phone, textOrNull u.email, .text u.passwordHash, .int u.roleId]
  | .setPassword id h => [.text h, .int id]
  | .markVerified id _ => [.int id]
  | .role id => [.int id]

def words : AccountCall → String
  | .byId _ => selectUser "id"
  | .byAddress c _ => selectUser (column c)
  | .create _ => insertUser
  | .setPassword .. => "UPDATE users SET password_hash = $1, updated_at = NOW() WHERE id = $2"
  | .markVerified _ c => s!"UPDATE users SET {verifiedColumn c} = NOW(), updated_at = NOW() WHERE id = $1"
  | .role _ => "SELECT id, name, description FROM roles WHERE id = $1"

def statement (c : AccountCall) : Statement := ⟨.accounts, words c, cells c⟩

variable {α : Type}

/-- What a reply tells whoever asked for one row. -/
def only (read : Row → Except DatabaseError α) : Except DatabaseError Outcome → Except DatabaseError α
  | .error e => .error e
  | .ok o =>
    match o.rows with
    | [] => .error .rowNotFound
    | r :: _ => read r

theorem silent_liftExcept (r : Except DatabaseError α) : Silent (liftExcept r) := ends_liftExcept rfl

theorem silent_found (o : Option α) : Silent (found o) := by
  cases o <;> rfl

theorem ends_ask (sql : String) (params : List Cell) :
    Ends (ask sql params) fun said _ => ∃ v, said = [⟨⟨.accounts, sql, params⟩, v⟩] :=
  Program.Ends.mono (ends_send _) fun _ v hs => ⟨v, hs⟩

theorem ends_fetch (sql : String) (params : List Cell) (read : Row → Except DatabaseError α) :
    Ends (do found (← liftExcept (first? read (← ask sql params)))) fun said r =>
      ∃ v, said = [⟨⟨.accounts, sql, params⟩, v⟩] ∧ r = only read v := by
  refine .bind (ends_send _) ?_ ?_
  · rintro _ ⟨rows, n⟩ rfl
    cases rows with
    | nil => exact ⟨.ok ⟨[], n⟩, rfl, rfl⟩
    | cons r rows =>
      show Ends (liftExcept ((read r).map some) >>= found) _
      have hv : only read (.ok ⟨r :: rows, n⟩) = read r := rfl
      cases hr : read r with
      | ok a => exact ⟨.ok ⟨r :: rows, n⟩, rfl, by rw [hv, hr]⟩
      | error e => exact ⟨.ok ⟨r :: rows, n⟩, rfl, by rw [hv, hr]⟩
  · rintro _ e rfl
    exact ⟨.error e, rfl, rfl⟩

theorem ends_fetched (sql : String) (params : List Cell) (read : Row → Except DatabaseError α) :
    Ends (do found (← liftExcept (first? read (← ask sql params)))) fun said _ =>
      ∃ v, said = [⟨⟨.accounts, sql, params⟩, v⟩] :=
  Program.Ends.mono (ends_fetch sql params read) fun _ _ ⟨v, hs, _⟩ => ⟨v, hs⟩

theorem ends_change (sql : String) (params : List Cell) :
    Ends (change sql params) fun said _ => ∃ v, said = [⟨⟨.accounts, sql, params⟩, v⟩] := by
  refine .bind_silent (ends_ask sql params) fun o => ?_
  split <;> rfl

/-- A failed lookup is noted, and that is all that comes between. -/
theorem ends_byAddress (c : Channel) (address : String) :
    Ends (byAddress c address) fun said _ => ∃ v, said = [⟨statement (.byAddress c address), v⟩] := by
  refine .bind (ends_note _ _) ?_ (by rintro _ e ⟨-, ⟨⟩⟩)
  rintro _ _ ⟨rfl, -⟩
  refine .bind_silent (.handle_silent ?_ fun e => rfl) silent_found
  exact .bind_silent (ends_ask _ _) fun _ => silent_liftExcept _

/-- The courses that the handling of a call takes. -/
inductive Converses : (c : AccountCall) → List Sent → Except DatabaseError c.Answer → Prop
  | once {c : AccountCall} (v : Except DatabaseError Outcome) (r : Except DatabaseError c.Answer) :
    (∀ u, c ≠ .create u) → Converses c [⟨statement c, v⟩] r
  | refused (u : NewUser) (e : DatabaseError) (r : Except DatabaseError Outcome) :
    Converses (.create u) [⟨.start, .error e⟩, ⟨.rollback, r⟩] (.error e)
  | kept {u : NewUser} {v : Except DatabaseError Outcome} {a : User} (b c : Outcome) : only user v = .ok a →
    Converses (.create u) [⟨.start, .ok b⟩, ⟨statement (.create u), v⟩, ⟨.commit, .ok c⟩] (.ok a)
  | lost {u : NewUser} {v : Except DatabaseError Outcome} {a : User} (b : Outcome) (e : DatabaseError)
    (r : Except DatabaseError Outcome) : only user v = .ok a →
    Converses (.create u) [⟨.start, .ok b⟩, ⟨statement (.create u), v⟩, ⟨.commit, .error e⟩, ⟨.rollback, r⟩] (.error e)
  | undone {u : NewUser} {v : Except DatabaseError Outcome} {e : DatabaseError} (b c : Outcome) :
    only user v = .error e →
    Converses (.create u) [⟨.start, .ok b⟩, ⟨statement (.create u), v⟩, ⟨.rollback, .ok c⟩] (.error e)
  | stuck {u : NewUser} {v : Except DatabaseError Outcome} {e : DatabaseError} (b : Outcome) (e' : DatabaseError)
    (r : Except DatabaseError Outcome) : only user v = .error e →
    Converses (.create u) [⟨.start, .ok b⟩, ⟨statement (.create u), v⟩, ⟨.rollback, .error e'⟩, ⟨.rollback, r⟩]
      (.error e')

theorem Converses.of_transacts {u : NewUser} {said : List Sent} {r : Except DatabaseError User}
    (h : Transacts (fun said r => ∃ v, said = [⟨statement (.create u), v⟩] ∧ r = only user v) said r) :
    Converses (.create u) said r := by
  cases h with
  | refused e r => exact .refused u e r
  | kept b c hs =>
    obtain ⟨v, rfl, hv⟩ := hs
    exact .kept b c hv.symm
  | lost b e r hs =>
    obtain ⟨v, rfl, hv⟩ := hs
    exact .lost b e r hv.symm
  | undone b c hs =>
    obtain ⟨v, rfl, hv⟩ := hs
    exact .undone b c hv.symm
  | stuck b e r hs =>
    obtain ⟨v, rfl, hv⟩ := hs
    exact .stuck b e r hv.symm

theorem converses_of_ends {c : AccountCall} (hc : ∀ u, c ≠ .create u) {x : Exchange c.Answer}
    (h : Ends x fun said _ => ∃ v, said = [⟨statement c, v⟩]) : Ends x (Converses c) := by
  refine Program.Ends.mono h ?_
  rintro _ r ⟨v, rfl⟩
  exact .once v r hc

theorem ends_answer (c : AccountCall) : Ends (answer c) (Converses c) := by
  cases c with
  | byId id => exact converses_of_ends (by simp) (ends_fetched _ _ _)
  | byAddress c a => exact converses_of_ends (by simp) (ends_byAddress c a)
  | create u => exact Program.Ends.mono (ends_transaction (ends_fetch _ _ _)) fun _ _ => .of_transacts
  | setPassword id h => exact converses_of_ends (by simp) (ends_change _ _)
  | markVerified id c => exact converses_of_ends (by simp) (ends_change _ _)
  | role id => exact converses_of_ends (by simp) (ends_fetched _ _ _)

/-- All that can be wrong with a row is that a column is missing. -/
def Legible (x : Except DatabaseError α) : Prop := ∀ e, x = .error e → ∃ column, e = .unexpectedNull column

theorem Legible.bind {β : Type} {x : Except DatabaseError α} {f : α → Except DatabaseError β} (h : Legible x)
    (hf : ∀ a, Legible (f a)) : Legible (x >>= f) := by
  cases x with
  | ok a => exact hf a
  | error e => exact fun e' he => h e' (congrArg Except.error (Except.error.inj he))

theorem Legible.ok (a : α) : Legible (.ok a) := by
  rintro e ⟨⟩

theorem legible_int (r : Row) (column : String) : Legible (int r column) := by
  intro e h
  unfold int at h
  split at h
  · cases h
  · exact ⟨column, (Except.error.inj h).symm⟩

theorem legible_text (r : Row) (column : String) : Legible (text r column) := by
  intro e h
  unfold text at h
  split at h
  · cases h
  · exact ⟨column, (Except.error.inj h).symm⟩

theorem legible_instant (r : Row) (column : String) : Legible (instant r column) := by
  intro e h
  refine legible_int r column e ?_
  unfold instant at h
  cases hi : int r column with
  | ok n =>
    rw [hi] at h
    cases h
  | error e' =>
    rw [hi] at h
    cases h
    rfl

theorem legible_user (r : Row) : Legible (user r) :=
  .bind (legible_int _ _) fun _ => .bind (legible_text _ _) fun _ => .bind (legible_text _ _) fun _ =>
    .bind (legible_int _ _) fun _ => .bind (legible_instant _ _) fun _ => .bind (legible_instant _ _) fun _ => .ok _

/-- What the caller is told. -/
def reported : Except DatabaseError α → Except RepositoryError α
  | .ok a => .ok a
  | .error e => .error e.toRepository

/-- Calls that come one after another on one connection. -/
def handled {σ : Type} (serve : Statement → σ → Except DatabaseError Outcome × σ) : σ → List AccountCall → List Handled
  | _, [] => []
  | t, c :: cs =>
    let done := (answer c).run.run (Connection.answer serve) ⟨t, []⟩
    ⟨c, done.1.map reported, done.2.said⟩ :: handled serve done.2.database cs

theorem exists_of_mem_handled {σ : Type} {serve : Statement → σ → Except DatabaseError Outcome × σ}
    {calls : List AccountCall} {t : σ} {h : Handled} (hm : h ∈ handled serve t calls) :
    ∃ r, h.answer = some (reported r) ∧ Converses h.call h.said r := by
  induction calls generalizing t with
  | nil => cases hm
  | cons c cs ih =>
    cases hm with
    | head =>
      obtain ⟨r, said, t', hrun, hc⟩ := (ends_answer c).run serve ⟨t, []⟩
      rw [hrun]
      exact ⟨r, rfl, hc⟩
    | tail _ hm => exact ih hm

theorem calls_handled {σ : Type} (serve : Statement → σ → Except DatabaseError Outcome × σ) (calls : List AccountCall)
    (t : σ) : (handled serve t calls).map Handled.call = calls := by
  induction calls generalizing t with
  | nil => rfl
  | cons c cs ih => exact congrArg _ (ih _)

end Repository

namespace Script

open Repository

def serve (q : Statement) (s : Script) : Except DatabaseError Outcome × Script := s.send q

theorem send_log (s : Script) (l : List LogLine) (q : Statement) :
    ({ s with log := l } : Script).send q = ((s.send q).1, { (s.send q).2 with log := l }) := by
  have hl (t : Script) : ({ t with log := l } : Script).ledger q.sql = t.ledger q.sql := rfl
  have hf (t : Script) : ({ t with log := l } : Script).failure? q.sql = t.failure? q.sql := rfl
  unfold send
  split
  · rfl
  · simp only [hf { s with statements := s.statements ++ [q] }]
    split
    · rfl
    · split
      · rfl
      · rfl
      · simp only [hl { s with statements := s.statements ++ [q] }]
      · split <;> rfl

theorem run_connection {α : Type} (p : Program ExchangeQuery.Reply α) (s : Script) (l : List LogLine)
    (said : List Sent) : ∃ more, p.run (Connection.answer serve) ⟨{ s with log := l }, said⟩ =
      ((p.run answer s).1, ⟨{ (p.run answer s).2 with log := l }, more⟩) := by
  induction p generalizing s said with
  | done a => exact ⟨said, rfl⟩
  | halt => exact ⟨said, rfl⟩
  | call q next ih =>
    cases q with
    | send q =>
      obtain ⟨more, h⟩ := ih (s.send q).1 (s.send q).2 (said ++ [⟨q, (s.send q).1⟩])
      refine ⟨more, Eq.trans ?_ h⟩
      simp only [Program.run, Connection.answer, serve, send_log]
    | log l' => exact ih () { s with log := s.log ++ [l'] } said

/-- A server that is laid down before is one of those that answer as they like. -/
theorem answer_eq (c : AccountCall) (now : Int) (s : Script) :
    let done := (Repository.answer c).run.run (Connection.answer serve) ⟨s, []⟩
    (AccountStore.answer c now s).1 = done.1.map reported ∧ (AccountStore.answer c now s).2.1 = done.2.database := by
  obtain ⟨more, h⟩ := run_connection (Repository.answer c).run s s.log []
  show _ ∧ _
  rw [h]
  refine ⟨?_, rfl⟩
  show Option.map _ _ = Option.map _ _
  congr 1
  funext r
  cases r <;> rfl

end Script
end SignIn
