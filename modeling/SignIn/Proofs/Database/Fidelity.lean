import SignIn.Proofs.Database.Conversation

/-! The repository reports what came to be, and leaves nothing open. -/

namespace SignIn

/-- The same call but for its arguments. -/
inductive AccountCall.Alike : AccountCall → AccountCall → Prop
  | byId (id id' : UserId) : Alike (.byId id) (.byId id')
  | byAddress (c : Channel) (a a' : String) : Alike (.byAddress c a) (.byAddress c a')
  | create (u u' : NewUser) : Alike (.create u) (.create u')
  | setPassword (id id' : UserId) (h h' : String) : Alike (.setPassword id h) (.setPassword id' h')
  | markVerified (id id' : UserId) (c : Channel) : Alike (.markVerified id c) (.markVerified id' c)
  | role (id id' : RoleId) : Alike (.role id) (.role id')

/-- What is sent is told by `next?` from the replies so far, until it tells of nothing more. -/
def Follows (next? : List (Except DatabaseError Outcome) → Option Statement) : List Sent → Prop
  | [] => next? [] = none
  | e :: said => next? [] = some e.statement ∧ Follows (fun replies => next? (e.reply :: replies)) said

theorem Follows.getElem? {next? : List (Except DatabaseError Outcome) → Option Statement} {said : List Sent}
    (h : Follows next? said) (n : Nat) : (said[n]?).map Sent.statement = next? ((said.take n).map Sent.reply) := by
  induction said generalizing next? n with
  | nil => simpa using h.symm
  | cons e said ih =>
    cases n with
    | zero => exact h.1.symm
    | succ n => exact ih h.2 n

namespace Repository

variable {α : Type}

/-- The row that was asked for came, and can be read. -/
def Brings (v : Except DatabaseError Outcome) (u : User) : Prop :=
  ∃ o r, v = .ok o ∧ o.rows.head? = some r ∧ user r = .ok u

/-- No row came. -/
def Empty (v : Except DatabaseError Outcome) : Prop :=
  v = .error .rowNotFound ∨ ∃ o, v = .ok o ∧ o.rows = []

/-- The value that has to be unique and is not. -/
def Taken (v : Except DatabaseError Outcome) (constraint : String) : Prop :=
  ∃ e, v = .error (.server e) ∧ e.code = some "23505" ∧ constraint = e.constraint.getD "unique"

/-- What a create sends next, when these are the replies so far. A transaction that could not be begun or ended as it
was asked for is rolled back. -/
def nextInCreate? (insert : Statement) : List (Except DatabaseError Outcome) → Option Statement
  | [] => some .start
  | [.ok _] => some insert
  | [.ok _, v] =>
    match only user v with
    | .ok _ => some .commit
    | .error _ => some .rollback
  | [.error _] => some .rollback
  | [.ok _, _, .error _] => some .rollback
  | _ => none

/-- What a call sends next. Every call but a create sends one statement. -/
def next? (c : AccountCall) : List (Except DatabaseError Outcome) → Option Statement :=
  match c with
  | .create u => nextInCreate? (statement (.create u))
  | c => fun replies => if replies.isEmpty then some (statement c) else none

/-- A create that was told `answer` after all of `said`. -/
structure Faithful (u : NewUser) (answer : Except RepositoryError User) (said : List Sent) : Prop where
  begins : said.head?.map Sent.statement = some .start
  ok_iff : ∀ a, answer = .ok a ↔ ∃ b v c,
    [⟨.start, .ok b⟩, ⟨statement (.create u), v⟩, ⟨.commit, .ok c⟩] <+: said ∧ Brings v a
  commits : ∀ b rest, said = ⟨.start, .ok b⟩ :: rest → ∃ v more, rest = ⟨statement (.create u), v⟩ :: more ∧
    (.commit ∈ more.map Sent.statement ↔ ∃ a, Brings v a) ∧
    ((¬ ∃ a, Brings v a) → .rollback ∈ more.map Sent.statement)
  undone : ∀ b v c, [⟨.start, .ok b⟩, ⟨statement (.create u), v⟩, ⟨.rollback, .ok c⟩] <+: said →
    (∀ constraint, Taken v constraint → answer = .error (.uniqueViolation constraint)) ∧
    (Empty v → answer = .error .notFound) ∧
    ((∀ constraint, ¬ Taken v constraint) → ¬ Empty v → ∃ why, answer = .error (.internal why))

/-- What closes a transaction. -/
def Closing (e : Sent) : Prop := e.statement = .rollback ∨ e.statement = .commit ∧ ∃ o, e.reply = .ok o

/-- A call that was answered, that sent what it had to, and left nothing open. Its arguments went out as such. -/
structure Orderly (h : Handled) : Prop where
  answered : h.answer ≠ none
  follows : Follows (next? h.call) h.said
  closes : ∀ before r after, h.said = before ++ ⟨.start, r⟩ :: after →
    ∃ e, after.getLast? = some e ∧ Closing e
  binds : ∀ e ∈ h.said, e.statement.params = [] ∨ e.statement.params = cells h.call

theorem only_eq_ok_iff {v : Except DatabaseError Outcome} {u : User} : only user v = .ok u ↔ Brings v u := by
  constructor
  · intro h
    match v with
    | .ok ⟨r :: rows, n⟩ => exact ⟨_, r, rfl, rfl, h⟩
  · rintro ⟨⟨rows, n⟩, r, rfl, hr, hu⟩
    cases rows with
    | nil => cases hr
    | cons r' rows =>
      cases hr
      exact hu

theorem uniqueViolation_of_taken {v : Except DatabaseError Outcome} {e : DatabaseError} (h : only user v = .error e)
    {constraint : String} (ht : Taken v constraint) : e.toRepository = .uniqueViolation constraint := by
  obtain ⟨s, rfl, hs, rfl⟩ := ht
  cases h
  exact if_pos hs

theorem notFound_of_empty {v : Except DatabaseError Outcome} {e : DatabaseError} (h : only user v = .error e)
    (he : Empty v) : e.toRepository = .notFound := by
  obtain rfl | ⟨⟨rows, n⟩, rfl, rfl⟩ := he
  · cases h
    rfl
  · cases h
    rfl

theorem internal_of_only {v : Except DatabaseError Outcome} {e : DatabaseError} (h : only user v = .error e)
    (ht : ∀ constraint, ¬ Taken v constraint) (he : ¬ Empty v) : ∃ why, e.toRepository = .internal why := by
  match v with
  | .ok ⟨[], n⟩ => exact absurd (.inr ⟨_, rfl, rfl⟩) he
  | .ok ⟨r :: rows, n⟩ =>
    obtain ⟨column, rfl⟩ := legible_user r e h
    exact ⟨_, rfl⟩
  | .error _ =>
    cases h
    cases e with
    | rowNotFound => exact absurd (.inl rfl) he
    | server s =>
      have hs : s.code ≠ some DatabaseError.uniqueViolation := fun hs => ht _ ⟨s, rfl, hs, rfl⟩
      exact ⟨_, if_neg hs⟩
    | _ => exact ⟨_, rfl⟩

theorem sql_nextInCreate? (i i' : Statement) (h : i.sql = i'.sql) (replies : List (Except DatabaseError Outcome)) :
    (nextInCreate? i replies).map Statement.sql = (nextInCreate? i' replies).map Statement.sql := by
  unfold nextInCreate?
  split <;> simp [h]

/-- Calls that are alike are put the same way. -/
theorem next?_of_alike {c c' : AccountCall} (h : c.Alike c') (replies : List (Except DatabaseError Outcome)) :
    (next? c replies).map Statement.sql = (next? c' replies).map Statement.sql := by
  cases h with
  | create u u' => exact sql_nextInCreate? (statement (.create u)) (statement (.create u')) rfl replies
  | _ => cases replies <;> rfl

theorem Converses.follows {c : AccountCall} {said : List Sent} {r : Except DatabaseError c.Answer}
    (h : Converses c said r) : Follows (next? c) said := by
  cases h with
  | once v r hc => cases c with
    | create u => exact absurd rfl (hc u)
    | _ => exact ⟨rfl, rfl⟩
  | refused u e r => exact ⟨rfl, rfl, rfl⟩
  | kept b c hv =>
    refine ⟨rfl, rfl, ?_, rfl⟩
    simp only [next?, nextInCreate?, hv]
  | lost b e r hv =>
    refine ⟨rfl, rfl, ?_, rfl, rfl⟩
    simp only [next?, nextInCreate?, hv]
  | undone b c hv =>
    refine ⟨rfl, rfl, ?_, rfl⟩
    simp only [next?, nextInCreate?, hv]
  | stuck b e r hv =>
    refine ⟨rfl, rfl, ?_, rfl, rfl⟩
    simp only [next?, nextInCreate?, hv]

@[simp] theorem rollback_ne_commit : Statement.rollback ≠ .commit := by decide

@[simp] theorem commit_ne_rollback : Statement.commit ≠ .rollback := by decide

@[simp] theorem rollback_ne_start : Statement.rollback ≠ .start := by decide

@[simp] theorem commit_ne_start : Statement.commit ≠ .start := by decide

@[simp] theorem statement_ne_start (c : AccountCall) : statement c ≠ .start := by
  intro h
  cases congrArg Statement.topic h

theorem reported_eq_ok_iff {r : Except DatabaseError α} {a : α} : reported r = .ok a ↔ r = .ok a := by
  cases r <;> simp [reported]

namespace Converses

variable {u : NewUser} {said : List Sent} {r : Except DatabaseError User} {v : Except DatabaseError Outcome}

theorem ok_iff (h : Converses (.create u) said r) {a : User} : reported r = .ok a ↔ ∃ b v c,
    [⟨.start, .ok b⟩, ⟨statement (.create u), v⟩, ⟨.commit, .ok c⟩] <+: said ∧ Brings v a := by
  rw [reported_eq_ok_iff]
  cases h with
  | once v r hc => exact absurd rfl (hc u)
  | refused _ e r => simp
  | @kept _ v a' b c hv =>
    constructor
    · rintro ⟨⟩
      exact ⟨b, v, c, List.prefix_rfl, only_eq_ok_iff.1 hv⟩
    · rintro ⟨b', v', c', hs, hb⟩
      simp only [List.cons_prefix_cons, Sent.mk.injEq, true_and] at hs
      obtain ⟨-, rfl, -⟩ := hs
      exact hv.symm.trans (only_eq_ok_iff.2 hb)
  | lost b e r hv => simp
  | undone b c hv => simp
  | stuck b e r hv => simp

/-- A commit that failed is followed by a rollback, so both may be sent for a row that can be read. -/
theorem settled_of_ok {a : User} (hv : only user v = .ok a) {more : List Statement} (hc : .commit ∈ more) :
    (.commit ∈ more ↔ ∃ a, Brings v a) ∧ ((¬ ∃ a, Brings v a) → .rollback ∈ more) :=
  have hb : ∃ a, Brings v a := ⟨a, only_eq_ok_iff.1 hv⟩
  ⟨iff_of_true hc hb, fun hn => absurd hb hn⟩

theorem settled_of_error {e : DatabaseError} (hv : only user v = .error e) {more : List Statement}
    (hc : .commit ∉ more) (hr : .rollback ∈ more) :
    (.commit ∈ more ↔ ∃ a, Brings v a) ∧ ((¬ ∃ a, Brings v a) → .rollback ∈ more) := by
  have hb : ¬ ∃ a, Brings v a := by
    rintro ⟨a, ha⟩
    cases hv.symm.trans (only_eq_ok_iff.2 ha)
  exact ⟨iff_of_false hc hb, fun _ => hr⟩

theorem settled (h : Converses (.create u) said r) {b : Outcome} {rest : List Sent}
    (hs : said = ⟨.start, .ok b⟩ :: rest) : ∃ v more, rest = ⟨statement (.create u), v⟩ :: more ∧
      (.commit ∈ more.map Sent.statement ↔ ∃ a, Brings v a) ∧
      ((¬ ∃ a, Brings v a) → .rollback ∈ more.map Sent.statement) := by
  cases h with
  | once v r hc => exact absurd rfl (hc u)
  | refused _ e r => cases hs
  | kept b c hv =>
    cases hs
    exact ⟨_, _, rfl, settled_of_ok hv (by simp)⟩
  | lost b e r hv =>
    cases hs
    exact ⟨_, _, rfl, settled_of_ok hv (by simp)⟩
  | undone b c hv =>
    cases hs
    exact ⟨_, _, rfl, settled_of_error hv (by simp) (by simp)⟩
  | stuck b e r hv =>
    cases hs
    exact ⟨_, _, rfl, settled_of_error hv (by simp) (by simp)⟩

theorem only_eq_error (h : Converses (.create u) said r) {b c : Outcome}
    (hs : [⟨.start, .ok b⟩, ⟨statement (.create u), v⟩, ⟨.rollback, .ok c⟩] <+: said) :
    ∃ e, only user v = .error e ∧ r = .error e := by
  cases h with
  | once v r hc => exact absurd rfl (hc u)
  | refused _ e r => simp at hs
  | kept b c hv => simp at hs
  | lost b e r hv => simp at hs
  | undone b c hv =>
    simp only [List.cons_prefix_cons, Sent.mk.injEq, true_and] at hs
    obtain ⟨-, rfl, -⟩ := hs
    exact ⟨_, hv, rfl⟩
  | stuck b e r hv => simp at hs

theorem begins (h : Converses (.create u) said r) : said.head?.map Sent.statement = some .start := by
  cases h with
  | once v r hc => exact absurd rfl (hc u)
  | _ => rfl

theorem faithful (h : Converses (.create u) said r) : Faithful u (reported r) said where
  begins := h.begins
  ok_iff a := h.ok_iff
  commits b rest hs := h.settled hs
  undone b v c hs := by
    obtain ⟨e, hv, rfl⟩ := h.only_eq_error hs
    refine ⟨fun constraint ht => ?_, fun he => ?_, fun ht he => ?_⟩
    · exact congrArg _ (uniqueViolation_of_taken hv ht)
    · exact congrArg _ (notFound_of_empty hv he)
    · obtain ⟨why, hw⟩ := internal_of_only hv ht he
      exact ⟨why, congrArg _ hw⟩

end Converses

/-- A transaction is begun by the first statement alone, and what closes it is the last one. -/
theorem closes_of_closing {first last : Sent} {said : List Sent} (hs : ∀ e ∈ said, e.statement ≠ .start)
    (hl : said.getLast? = some last) (hc : Closing last) {before after : List Sent}
    {r : Except DatabaseError Outcome} (h : first :: said = before ++ ⟨.start, r⟩ :: after) :
    ∃ e, after.getLast? = some e ∧ Closing e := by
  cases before with
  | nil =>
    cases h
    exact ⟨last, hl, hc⟩
  | cons e before =>
    have hm : ⟨.start, r⟩ ∈ said := by
      rw [(List.cons.inj h).2]
      exact List.mem_append_right before List.mem_cons_self
    exact absurd rfl (hs _ hm)

theorem Converses.closes {c : AccountCall} {said : List Sent} {r : Except DatabaseError c.Answer}
    (h : Converses c said r) {before after : List Sent} {v : Except DatabaseError Outcome}
    (hs : said = before ++ ⟨.start, v⟩ :: after) : ∃ e, after.getLast? = some e ∧ Closing e := by
  cases h with
  | once v r hc =>
    obtain ⟨-, hs⟩ | ⟨-, hs⟩ := List.singleton_eq_append_iff.1 hs
    · cases hs
    · cases hs
  | refused _ e r => exact closes_of_closing (by simp) rfl (.inl rfl) hs
  | kept b c hv => exact closes_of_closing (by simp) rfl (.inr ⟨rfl, c, rfl⟩) hs
  | lost b e r hv => exact closes_of_closing (by simp) rfl (.inl rfl) hs
  | undone b c hv => exact closes_of_closing (by simp) rfl (.inl rfl) hs
  | stuck b e r hv => exact closes_of_closing (by simp) rfl (.inl rfl) hs

theorem Converses.binds {c : AccountCall} {said : List Sent} {r : Except DatabaseError c.Answer}
    (h : Converses c said r) : ∀ e ∈ said, e.statement.params = [] ∨ e.statement.params = cells c := by
  cases h with
  | once v r hc => simp [statement]
  | refused _ e r => simp [Statement.start, Statement.rollback]
  | kept b c hv => simp [statement, Statement.start, Statement.commit]
  | lost b e r hv => simp [statement, Statement.start, Statement.commit, Statement.rollback]
  | undone b c hv => simp [statement, Statement.start, Statement.rollback]
  | stuck b e r hv => simp [statement, Statement.start, Statement.rollback]

theorem orderly_of_mem_handled {σ : Type} {serve : Statement → σ → Except DatabaseError Outcome × σ}
    {calls : List AccountCall} {t : σ} {h : Handled} (hm : h ∈ handled serve t calls) : Orderly h := by
  obtain ⟨r, ha, hc⟩ := exists_of_mem_handled hm
  exact ⟨by simp [ha], hc.follows, fun _ _ _ => hc.closes, hc.binds⟩

end Repository

namespace Sample

open Repository

def enrolled : NewUser := ⟨"Ada", some "77011234567", none, "hash", 3⟩

def kept : Row := [
  ("id", .int 1), ("phone_number", .text "77011234567"), ("name", .text "Ada"), ("password_hash", .text "hash"),
  ("role_id", .int 3), ("created_at", .int 0), ("updated_at", .int 0)]

/-- A server that does whatever it is told. -/
def obliging (_ : Statement) (t : Unit) : Except DatabaseError Outcome × Unit := (.ok ⟨[kept], 1⟩, t)

end Sample
end SignIn
