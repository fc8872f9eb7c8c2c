import SignIn.Database.Migration
import SignIn.Database.Repository

/-! A server that answers as laid down before, and keeps what it was sent. -/

namespace SignIn

structure Script where
  /-- statements that contain the text fail -/
  failures : List (String × ServerError) := []
  /-- the answers to statements about accounts -/
  replies : List (Except ServerError Outcome) := []
  applied : List (Int64 × Bytes) := []
  dirty : Option Int64 := none
  /-- no connection is given any more -/
  closed : Bool := false
  statements : List Statement := []
  log : List LogLine := []

namespace Script

def contains (text part : List Char) : Bool :=
  match text with
  | [] => part = []
  | _ :: r => part.isPrefixOf text || contains r part

def failure? (s : Script) (sql : String) : Option ServerError :=
  (s.failures.find? fun f => contains sql.toList f.1.toList).map (·.2)

/-- The migrations that were put on record. -/
def recorded (s : Script) : List (Int64 × String × Bytes) := s.statements.filterMap fun
  | ⟨.bookkeeping, sql, [.int v, .text d, .bytes c]⟩ =>
    if sql = Migration.insertRecord ∧ s.failure? sql = none then some (v, d, c) else none
  | _ => none

def ledger (s : Script) (sql : String) : Outcome :=
  if sql = Migration.selectDirty then
    { rows := s.dirty.toList.map fun v => [("version", .int v)] }
  else if sql = Migration.selectApplied then
    { rows := (s.applied ++ s.recorded.map fun m => (m.1, m.2.2)).map fun a =>
        [("version", .int a.1), ("checksum", .bytes a.2)] }
  else {}

def send (s : Script) (q : Statement) : Except DatabaseError Outcome × Script :=
  if s.closed then (.error .closed, s)
  else
    let s := { s with statements := s.statements ++ [q] }
    match s.failure? q.sql with
    | some e => (.error (.server e), s)
    | none => match q.topic with
      | .transaction | .schema => (.ok {}, s)
      | .bookkeeping => (.ok (s.ledger q.sql), s)
      | .accounts => match s.replies with
        | [] => (.ok {}, s)
        | .ok o :: r => (.ok o, { s with replies := r })
        | .error e :: r => (.error (.server e), { s with replies := r })

def answer (q : ExchangeQuery) (s : Script) : Option q.Reply × Script :=
  match q with
  | .send q => (s.send q).map some id
  | .log l => (some (), { s with log := s.log ++ [l] })

def run {ε α : Type} (p : ExceptT ε (Program ExchangeQuery.Reply) α) (s : Script) :
    Option (Except ε α) × Script :=
  p.run.run answer s

instance : AccountStore Script where
  answer c _ s :=
    let (r, t) := run (Repository.answer c) s
    (r.map fun
      | .ok a => .ok a
      | .error e => .error e.toRepository, { t with log := s.log }, t.log.drop s.log.length)

end Script
end SignIn
