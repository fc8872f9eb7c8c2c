import SignIn.Proofs.Service.Fault
import SignIn.Proofs.Service.Run

/-! Calls under way at the same time. Each goes on by one question whenever it is its turn, and between its questions
the others go on, time passes, and questions are asked from elsewhere. -/

namespace SignIn

namespace Program

variable {ι : Type} {ρ : ι → Type} {α σ : Type}

/-- What is left of a program once its next question is answered. -/
def advance (answer : (i : ι) → σ → Option (ρ i) × σ) : Program ρ α → σ → Program ρ α × σ
  | .done a, s => (.done a, s)
  | .halt, s => (.halt, s)
  | .call i next, s =>
    match answer i s with
    | (none, s) => (.halt, s)
    | (some x, s) => (next x, s)

/-- Where a program has come to its end with an answer, or without one. -/
def ended : Option α → Program ρ α
  | some a => .done a
  | none => .halt

/-- The answer of a program that is through. -/
def result? : Program ρ α → Option α
  | .done a => some a
  | _ => none

/-- Nothing more comes of it. -/
def finished : Program ρ α → Bool
  | .call .. => false
  | _ => true

theorem finished_of_result? {p : Program ρ α} {a : α} (h : p.result? = some a) : p.finished := by
  cases p <;> first | rfl | cases h

theorem eq_done_of_result? {p : Program ρ α} {a : α} (h : p.result? = some a) : p = .done a := by
  cases p <;> cases h
  rfl

end Program

/-- A call, and what is left of it. -/
structure Pending where
  call : Call
  rest : Program Query.Reply (Except ServiceError call.Answer)

namespace Pending

def begin (s : Service) (c : Call) : Pending := ⟨c, (c.operation s).run⟩

def answer? (p : Pending) : Option (Except ServiceError p.call.Answer) := p.rest.result?

def succeeded (p : Pending) : Bool := (Call.succeeded? some p.answer?).isSome

theorem succeeded_iff {p : Pending} : p.succeeded ↔ ∃ x, p.answer? = some (.ok x) := by
  simp [succeeded, Option.isSome_iff_exists, Call.succeeded?_eq_some_iff]

end Pending

inductive Turn where
  /-- of the call that stands there, if one does -/
  | goOn (i : Nat)
  | ask (q : Query)
  | wait (d : Int)
  deriving DecidableEq

structure Traffic where
  world : World Directory
  calls : List Pending

namespace Traffic

def start (s : Service) (w : World Directory) (calls : List Call) : Traffic := ⟨w, calls.map (.begin s)⟩

def next (src : Sources) (t : Traffic) : Turn → Traffic
  | .goOn i =>
    match t.calls[i]? with
    | none => t
    | some p =>
      let (rest, w) := p.rest.advance (World.answer src) t.world
      ⟨w, t.calls.set i { p with rest }⟩
  | .ask q => { t with world := (World.answer src q t.world).2 }
  | .wait d => { t with world := { t.world with now := t.world.now + d } }

def after (src : Sources) (turns : List Turn) (t : Traffic) : Traffic := turns.foldl (next src) t

/-- A call that is alone comes to what it comes to when it is performed. -/
theorem exists_after_start (s : Service) (src : Sources) (w : World Directory) (c : Call) :
    ∃ n, (start s w [c]).after src (.replicate n (.goOn 0)) =
      ⟨(w.perform s src c).2, [⟨c, .ended (w.perform s src c).1⟩]⟩ := by
  suffices h : ∀ (p : Program Query.Reply (Except ServiceError c.Answer)) (w : World Directory),
      ∃ n, after src (.replicate n (.goOn 0)) ⟨w, [⟨c, p⟩]⟩ =
        ⟨(p.run (World.answer src) w).2, [⟨c, .ended (p.run (World.answer src) w).1⟩]⟩ from h _ _
  intro p
  induction p with
  | done a => exact fun w => ⟨0, rfl⟩
  | halt => exact fun w => ⟨0, rfl⟩
  | call q f ih =>
    intro w
    have hstep : next src ⟨w, [⟨c, .call q f⟩]⟩ (.goOn 0) =
        ⟨((Program.call q f).advance (World.answer src) w).2, [⟨c, ((Program.call q f).advance (World.answer src) w).1⟩]⟩ :=
      rfl
    rw [Program.advance] at hstep
    rw [Program.run]
    cases hx : World.answer src q w with
    | mk o w' =>
      rw [hx] at hstep
      cases o with
      | none => exact ⟨1, hstep⟩
      | some x =>
        obtain ⟨n, hn⟩ := ih x w'
        refine ⟨n + 1, ?_⟩
        rw [List.replicate_succ, after, List.foldl_cons, hstep]
        exact hn

end Traffic

/-- The phases that a call passes through: what is known of a deployment when a question is put to it, and which phase
that question leads to. Nothing comes of what is logged. -/
structure Protocol (φ : Type) where
  known : World Directory → Prop
  goes : World Directory → φ → Query → φ → Prop
  log : ∀ {w a l}, goes w a (.log l) a

namespace Protocol

variable {φ : Type}

/-- From the phase `a` on a program keeps to the protocol, and `Q` holds of its last phase and of its answer. Between
one question and the next anything may have happened that leaves what is known. -/
def Keeps (P : Protocol φ) (src : Sources) {β : Type} (Q : φ → Option β → Prop) (a : φ) : Program Query.Reply β → Prop
  | .done b => Q a (some b)
  | .halt => Q a none
  | .call q next => ∀ w, P.known w → ∃ b, P.goes w a q b ∧
    match (World.answer src q w).1 with
    | none => Q b none
    | some x => P.Keeps src Q b (next x)

section Rules

open Operation (ask say refuse handle)

variable {P : Protocol φ} {src : Sources} {α β : Type} {Q : φ → Option (Except ServiceError β) → Prop} {a : φ}

theorem Keeps.ask {q : Query} {f : q.Reply → Operation β}
    (h : ∀ w, P.known w → ∃ b x, P.goes w a q b ∧ (World.answer src q w).1 = some x ∧ P.Keeps src Q b (f x).run) :
    P.Keeps src Q a (Operation.ask q >>= f).run := by
  intro w hw
  obtain ⟨b, x, hg, hx, hf⟩ := h w hw
  refine ⟨b, hg, ?_⟩
  rw [hx]
  exact hf

theorem Keeps.say {level : Level} {text : String} {f : Unit → Operation β} (h : P.Keeps src Q a (f ()).run) :
    P.Keeps src Q a (say level text >>= f).run :=
  .ask fun _ _ => ⟨a, (), P.log, rfl, h⟩

theorem Keeps.fails {op : Operation β} {e : ServiceError} (h : op.Fails e) (hq : Q a (some (.error e))) :
    P.Keeps src Q a op.run := by
  induction h with
  | refuse e => exact hq
  | say level text _ ih => exact .say (ih hq)

theorem Keeps.pure {x : β} (h : Q a (some (.ok x))) : P.Keeps src Q a (pure x : Operation β).run := h

/-- What a program does with a reply, and with none. -/
structure Resumes (P : Protocol φ) (src : Sources) (Q : φ → Option (Except ServiceError β) → Prop) (b : φ) {ε : Type}
    (reply : Option (Except ε α)) (f : α → Operation β) (refused : ε → Operation β) : Prop where
  halt : reply = none → Q b none
  ok : ∀ x, reply = some (.ok x) → P.Keeps src Q b (f x).run
  error : ∀ e, reply = some (.error e) → P.Keeps src Q b (refused e).run

section Replies

variable {b : φ} {ε : Type} {f : α → Operation β} {refused : ε → Operation β}

theorem Resumes.of_none (h : Q b none) : P.Resumes src Q b none f refused where
  halt _ := h
  ok _ hx := by cases hx
  error _ he := by cases he

theorem Resumes.of_ok {x : α} (h : P.Keeps src Q b (f x).run) : P.Resumes src Q b (some (.ok x)) f refused where
  halt hn := by cases hn
  ok _ hx := by
    cases hx
    exact h
  error _ he := by cases he

theorem Resumes.of_error {e : ε} (h : P.Keeps src Q b (refused e).run) :
    P.Resumes src Q b (some (.error e)) f refused where
  halt hn := by cases hn
  ok _ hx := by cases hx
  error _ he := by
    cases he
    exact h

end Replies

theorem Keeps.sessions {c : SessionCall} {refused : StoreError → Operation c.Answer} {f : c.Answer → Operation β}
    (h : ∀ w, P.known w → ∃ b, P.goes w a (.sessions c) b ∧
      P.Resumes src Q b (w.sessions.answer c w.now).1 f fun e => refused e >>= f) :
    P.Keeps src Q a (Operation.sessions c refused >>= f).run := by
  rw [Operation.sessions_eq, bind_assoc]
  intro w hw
  obtain ⟨b, hg, h⟩ := h w hw
  refine ⟨b, hg, ?_⟩
  split
  next hx => exact h.halt hx
  next x hx =>
    cases x with
    | ok x => exact h.ok x hx
    | error e => exact h.error e hx

theorem Keeps.accounts {c : AccountCall} {refused : RepositoryError → Operation c.Answer} {f : c.Answer → Operation β}
    (h : ∀ w, P.known w → ∃ b, P.goes w a (.accounts c) b ∧
      P.Resumes src Q b (w.accounts.answer c w.now).1 f fun e => refused e >>= f) :
    P.Keeps src Q a (Operation.accounts c refused >>= f).run := by
  rw [Operation.accounts_eq, bind_assoc]
  intro w hw
  obtain ⟨b, hg, h⟩ := h w hw
  refine ⟨b, hg, ?_⟩
  split
  next hx => exact h.halt hx
  next x hx =>
    cases x with
    | ok x => exact h.ok x hx
    | error e => exact h.error e hx

end Rules

/-- To go on by one question is to stand still, where nothing more comes, or to pass on to another phase. -/
theorem Keeps.advance {P : Protocol φ} {src : Sources} {β : Type} {Q : φ → Option β → Prop} {a : φ}
    {p : Program Query.Reply β} {w : World Directory} (h : P.Keeps src Q a p) (hw : P.known w) :
    p.advance (World.answer src) w = (p, w) ∨ ∃ q b, P.goes w a q b ∧
      (p.advance (World.answer src) w).2 = (World.answer src q w).2 ∧
      P.Keeps src Q b (p.advance (World.answer src) w).1 := by
  cases p with
  | done x => exact .inl rfl
  | halt => exact .inl rfl
  | call q next =>
    obtain ⟨b, hg, h⟩ := h w hw
    refine .inr ⟨q, b, hg, ?_⟩
    rw [Program.advance]
    split
    next hx =>
      rw [hx] at h ⊢
      exact ⟨rfl, h⟩
    next hx =>
      rw [hx] at h ⊢
      exact ⟨rfl, h⟩

theorem Keeps.result {P : Protocol φ} {src : Sources} {β : Type} {Q : φ → Option β → Prop} {a : φ}
    {p : Program Query.Reply β} (h : P.Keeps src Q a p) (hp : p.finished) : Q a p.result? := by
  cases p with
  | done b => exact h
  | halt => exact h
  | call q next => cases hp

/-- An invariant of a deployment and of the phases of all the calls to it, which neither the calls break nor time, nor
what is asked from elsewhere. -/
structure Guards (P : Protocol φ) (src : Sources) (elsewhere : Query → Prop) (Inv : World Directory → List φ → Prop) :
    Prop where
  known : ∀ {w l}, Inv w l → P.known w
  goOn : ∀ {w l i a q b}, Inv w l → l[i]? = some a → P.goes w a q b → Inv (World.answer src q w).2 (l.set i b)
  ask : ∀ {w l q}, Inv w l → elsewhere q → Inv (World.answer src q w).2 l
  wait : ∀ {w l d}, Inv w l → 0 ≤ d → Inv { w with now := w.now + d } l

end Protocol

/-- Time goes forwards, and from elsewhere is asked what may be. -/
def Turn.Allowed (elsewhere : Query → Prop) : Turn → Prop
  | .goOn _ => True
  | .ask q => elsewhere q
  | .wait d => 0 ≤ d

namespace Traffic

variable {φ : Type} {P : Protocol φ} {src : Sources} {Q : (c : Call) → φ → Option (Except ServiceError c.Answer) → Prop}
  {elsewhere : Query → Prop} {Inv : World Directory → List φ → Prop} {t : Traffic} {l : List φ}

/-- Each call keeps to the protocol from its phase on. -/
structure Obeys (P : Protocol φ) (src : Sources) (Q : (c : Call) → φ → Option (Except ServiceError c.Answer) → Prop)
    (Inv : World Directory → List φ → Prop) (t : Traffic) (l : List φ) : Prop where
  length_eq : l.length = t.calls.length
  keeps : ∀ {i : Nat} {p : Pending} {a : φ}, t.calls[i]? = some p → l[i]? = some a → P.Keeps src (Q p.call) a p.rest
  holds : Inv t.world l

theorem Obeys.start {s : Service} {w : World Directory} {calls : List Call} {a : φ} (h : Inv w (calls.map fun _ => a))
    (hc : ∀ c ∈ calls, P.Keeps src (Q c) a (c.operation s).run) :
    Obeys P src Q Inv (start s w calls) (calls.map fun _ => a) where
  length_eq := by simp [Traffic.start]
  keeps := by
    intro i p b hp hb
    simp only [Traffic.start, List.getElem?_map, Option.map_eq_some_iff] at hp hb
    obtain ⟨c, hi, rfl⟩ := hp
    obtain ⟨_, -, rfl⟩ := hb
    exact hc c (List.mem_of_getElem? hi)
  holds := h

theorem Obeys.set (h : Obeys P src Q Inv t l) {i : Nat} {p : Pending} {b : φ} {w : World Directory}
    {rest : Program Query.Reply (Except ServiceError p.call.Answer)} (hk : P.Keeps src (Q p.call) b rest)
    (hi : Inv w (l.set i b)) : Obeys P src Q Inv ⟨w, t.calls.set i { p with rest }⟩ (l.set i b) where
  length_eq := by simp [h.length_eq]
  keeps := by
    intro j p' b' hp hb
    rw [List.getElem?_set] at hp hb
    split at hp
    next hij =>
      rw [if_pos hij] at hb
      split at hp
      next =>
        split at hb
        next =>
          cases hp
          cases hb
          exact hk
        next => cases hb
      next => cases hp
    next hij =>
      rw [if_neg hij] at hb
      exact h.keeps hp hb
  holds := hi

/-- What has come of a call fits the phase that it stopped at. -/
theorem Obeys.outcome (h : Obeys P src Q Inv t l) {i : Nat} {p : Pending} (hp : t.calls[i]? = some p)
    (hf : p.rest.finished) : ∃ a, l[i]? = some a ∧ Q p.call a p.answer? := by
  obtain ⟨hi, -⟩ := List.getElem?_eq_some_iff.1 hp
  have ha : l[i]? = some _ := List.getElem?_eq_getElem (h.length_eq ▸ hi)
  exact ⟨_, ha, (h.keeps hp ha).result hf⟩

theorem Obeys.next (hg : P.Guards src elsewhere Inv) (h : Obeys P src Q Inv t l) {turn : Turn}
    (ht : turn.Allowed elsewhere) : ∃ l, Obeys P src Q Inv (t.next src turn) l := by
  cases turn with
  | ask q => exact ⟨l, h.length_eq, h.keeps, hg.ask h.holds ht⟩
  | wait d => exact ⟨l, h.length_eq, h.keeps, hg.wait h.holds ht⟩
  | goOn i =>
    rw [Traffic.next]
    cases hp : t.calls[i]? with
    | none => exact ⟨l, h⟩
    | some p =>
      obtain ⟨hi, rfl⟩ := List.getElem?_eq_some_iff.1 hp
      have hl : i < l.length := h.length_eq ▸ hi
      have ha : l[i]? = some l[i] := List.getElem?_eq_getElem hl
      dsimp only
      -- One call goes on, and the others stay in their phases while the invariant is carried over.
      obtain hsame | ⟨q, b, hgo, hw, hk⟩ := (h.keeps hp ha).advance (hg.known h.holds)
      · rw [hsame]
        exact ⟨l, by rwa [List.set_getElem_self]⟩
      · refine ⟨l.set i b, h.set hk ?_⟩
        rw [hw]
        exact hg.goOn h.holds ha hgo

theorem Obeys.after (hg : P.Guards src elsewhere Inv) (h : Obeys P src Q Inv t l) {turns : List Turn}
    (ht : ∀ turn ∈ turns, turn.Allowed elsewhere) : ∃ l, Obeys P src Q Inv (t.after src turns) l := by
  induction turns generalizing t l with
  | nil => exact ⟨l, h⟩
  | cons turn turns ih =>
    obtain ⟨l, h⟩ := h.next hg (ht turn List.mem_cons_self)
    exact ih h fun turn' ht' => ht turn' (List.mem_cons_of_mem turn ht')

end Traffic
end SignIn
