import SignIn.Proofs.Service.Questions

/-! Runs in which one question fails and all else is answered, and rules for what is to be shown of an operation
whichever of its questions that is. -/

namespace SignIn

namespace Program

variable {ι : Type} {ρ : ι → Type} {α β σ τ : Type}

/-- A run in which the question `i` fails, once. -/
inductive Faulted (answer : (i : ι) → σ → Option (ρ i) × σ) (fault : (i : ι) → σ → Option (ρ i × σ)) :
    Program ρ α → σ → ι → Option α × σ → Prop
  | here {i next s x s'} : fault i s = some (x, s') →
    Faulted answer fault (.call i next) s i ((next x).run answer s')
  | later {i next s x s' j r} : answer i s = (some x, s') → Faulted answer fault (next x) s' j r →
    Faulted answer fault (.call i next) s j r

variable {answer : (i : ι) → σ → Option (ρ i) × σ} {fault : (i : ι) → σ → Option (ρ i × σ)} {s s' : σ} {i : ι}
  {r : Option α × σ}

theorem not_faulted_done (a : α) : ¬Faulted answer fault (.done a) s i r := nofun

theorem not_faulted_halt : ¬Faulted answer fault .halt s i r := nofun

theorem Faulted.bind {p : Program ρ β} {f : β → Program ρ α} {b : β} (hp : p.run answer s = (some b, s'))
    (h : Faulted answer fault (f b) s' i r) : Faulted answer fault (p >>= f) s i r := by
  show Faulted answer fault (p.bind f) s i r
  induction p generalizing s with
  | done b =>
    cases hp
    exact h
  | halt => cases hp
  | call j next ih =>
    rw [run] at hp
    split at hp
    next => cases hp
    next hx => exact .later hx (ih _ hp)

section View

variable {answer' : (i : ι) → τ → Option (ρ i) × τ} {fault' : (i : ι) → τ → Option (ρ i × τ)} (view : σ → τ)
  (h : ∀ i s, answer' i (view s) = ((answer i s).1, view (answer i s).2))
  (hf : ∀ i s, fault' i (view s) = (fault i s).map fun x => (x.1, view x.2)) {p : Program ρ α}

include h hf

theorem Faulted.map (hr : Faulted answer fault p s i r) : Faulted answer' fault' p (view s) i (r.1, view r.2) := by
  induction hr with
  | @here i next s x s' hx =>
    rw [← run_map view h]
    exact .here (by rw [hf, hx]; rfl)
  | later hx _ ih => exact .later (by rw [h, hx]) ih

/-- What can fail in a view of a state can fail. -/
theorem Faulted.of_map {x : Option α × τ} (hr : Faulted answer' fault' p (view s) i x) :
    ∃ r, Faulted answer fault p s i r := by
  induction p generalizing s with
  | done a => cases hr
  | halt => cases hr
  | call j next ih =>
    cases hr with
    | here hx =>
      rw [hf, Option.map_eq_some_iff] at hx
      obtain ⟨y, hy, -⟩ := hx
      exact ⟨_, .here hy⟩
    | later hx hr =>
      rw [h] at hx
      obtain ⟨ha, rfl⟩ := Prod.mk.inj hx
      obtain ⟨r, hr⟩ := ih _ hr
      exact ⟨r, .later (Prod.ext ha rfl) hr⟩

end View

end Program

/-- How collaborators fail. Sessions may be lost where a store of them fails. -/
structure Breakdown where
  accounts : AccountCall → Option RepositoryError := fun _ => none
  sessions : SessionCall → Option (StoreError × (SessionStore → SessionStore)) := fun _ => none
  codes : PasscodeCall → Option StoreError := fun _ => none

def Breakdown.reply (b : Breakdown) (q : Query) (x : SessionStore) : Option (q.Reply × SessionStore) :=
  match q with
  | .accounts c => (b.accounts c).map fun e => (.error e, x)
  | .sessions c => (b.sessions c).map fun y => (.error y.1, y.2 x)
  | .codes c => (b.codes c).map fun e => (.error e, x)
  | _ => none

def World.fault (b : Breakdown) (q : Query) (w : World Directory) : Option (q.Reply × World Directory) :=
  (b.reply q w.sessions).map fun x => (x.1, { w with sessions := x.2 })

namespace Operation

/-- The operation fails with `e`, whatever it logs of that. -/
inductive Fails {α : Type} : Operation α → ServiceError → Prop
  | refuse (e : ServiceError) : Fails (refuse e) e
  | say {op : Operation α} {e : ServiceError} (level : Level) (text : String) : Fails op e →
    Fails (do say level text; op) e

variable {α β : Type} {op : Operation α} {e : ServiceError}

theorem Fails.bind (h : op.Fails e) (f : α → Operation β) : (op >>= f).Fails e := by
  induction h with
  | refuse e => exact .refuse e
  | say level text _ ih =>
    rw [bind_assoc]
    exact .say level text ih

/-- What is made of a reply. -/
def handle {ε : Type} (refused : ε → Operation α) : Except ε α → Operation α
  | .ok a => pure a
  | .error e => refused e

theorem accounts_eq (c : AccountCall) (refused : RepositoryError → Operation c.Answer) :
    accounts c refused = ask (.accounts c) >>= fun x => handle refused x := by
  refine bind_congr fun x => ?_
  cases x <;> rfl

theorem sessions_eq (c : SessionCall) (refused : StoreError → Operation c.Answer) :
    sessions c refused = ask (.sessions c) >>= fun x => handle refused x := by
  refine bind_congr fun x => ?_
  cases x <;> rfl

theorem codes_eq (c : PasscodeCall) (refused : StoreError → Operation c.Answer) :
    codes c refused = ask (.codes c) >>= fun x => handle refused x := by
  refine bind_congr fun x => ?_
  cases x <;> rfl

/-- A handler that does nothing but fail, and says so where what was asked is out. -/
structure Relays {ε : Type} (internal : String → ε) (message : ε → String) (refused : ε → Operation α) : Prop where
  fails : ∀ e, ∃ x, (refused e).Fails x
  reports : ∀ why, (refused (internal why)).Fails (.internal (message (internal why)))

theorem relays_repository {refused : RepositoryError → Operation α} (hn : ∃ e, (refused .notFound).Fails e)
    (hu : ∀ constraint, ∃ e, (refused (.uniqueViolation constraint)).Fails e)
    (hi : ∀ why, (refused (.internal why)).Fails (.internal (RepositoryError.internal why).message)) :
    Relays .internal RepositoryError.message refused where
  fails
    | .notFound => hn
    | .uniqueViolation constraint => hu constraint
    | .internal why => ⟨_, hi why⟩
  reports := hi

theorem relays_store {refused : StoreError → Operation α} (hn : ∃ e, (refused .notFound).Fails e)
    (ha : ∃ e, (refused .alreadyExists).Fails e)
    (hi : ∀ why, (refused (.internal why)).Fails (.internal (StoreError.internal why).message)) :
    Relays .internal StoreError.message refused where
  fails
    | .notFound => hn
    | .alreadyExists => ha
    | .internal why => ⟨_, hi why⟩
  reports := hi

theorem relays_repositoryFailure (action : String) :
    Relays (α := α) .internal RepositoryError.message (repositoryFailure action) where
  fails _ := ⟨_, .say _ _ (.refuse _)⟩
  reports _ := .say _ _ (.refuse _)

theorem relays_storeFailure (action : String) :
    Relays (α := α) .internal StoreError.message (storeFailure action) where
  fails _ := ⟨_, .say _ _ (.refuse _)⟩
  reports _ := .say _ _ (.refuse _)

theorem relays_absentUser (action : String) :
    Relays (α := α) .internal RepositoryError.message (absentUser action) :=
  relays_repository ⟨_, .refuse _⟩ (fun _ => ⟨_, .say _ _ (.refuse _)⟩) fun _ => .say _ _ (.refuse _)

theorem relays_unknownUser (action : String) :
    Relays (α := α) .internal RepositoryError.message (unknownUser action) :=
  relays_repository ⟨_, .say _ _ (.refuse _)⟩ (fun _ => ⟨_, .say _ _ (.refuse _)⟩) fun _ => .say _ _ (.refuse _)

theorem relays_absentSession (action : String) :
    Relays (α := α) .internal StoreError.message (absentSession action) :=
  relays_store ⟨_, .refuse _⟩ ⟨_, .say _ _ (.refuse _)⟩ fun _ => .say _ _ (.refuse _)

end Operation

namespace Holdings

open Operation (say refuse require)

variable {α β : Type} {src : Sources} {b : Breakdown} {w : Holdings}

def fault (b : Breakdown) (q : Query) (w : Holdings) : Option (q.Reply × Holdings) :=
  (b.reply q w.sessions).map fun x => (x.1, { w with sessions := x.2 })

theorem fault_holdings (b : Breakdown) (q : Query) (w : World Directory) :
    fault b q w.holdings = (World.fault b q w).map fun x => (x.1, x.2.holdings) := by
  rw [fault, World.fault, Option.map_map]
  rfl

/-- Whichever question of the operation fails, `P` holds of it, of the answer and of what is held afterwards. -/
def Withstands (src : Sources) (b : Breakdown) (op : Operation α) (w : Holdings)
    (P : Query → Option (Except ServiceError α) → Holdings → Prop) : Prop :=
  ∀ q r, op.run.Faulted (answer src) (fault b) w q r → P q r.1 r.2

variable {P : Query → Option (Except ServiceError β) → Holdings → Prop}

theorem Withstands.of_world {op : Operation β} {w : World Directory} (h : Withstands src b op w.holdings P) {q : Query}
    {r : Option (Except ServiceError β) × World Directory}
    (hr : op.run.Faulted (World.answer src) (World.fault b) w q r) : P q r.1 r.2.holdings :=
  h _ _ (hr.map World.holdings (answer_holdings src) (fault_holdings b))

theorem Withstands.ask {q : Query} {f : q.Reply → Operation β}
    (hf : ∀ x w', fault b q w = some (x, w') → P q (exec src (f x) w').1 (exec src (f x) w').2)
    (hok : ∀ x w', answer src q w = (some x, w') → Withstands src b (f x) w' P) :
    Withstands src b (Operation.ask q >>= f) w P := by
  rintro q' r h
  cases h with
  | here hx => exact hf _ _ hx
  | later hx h => exact hok _ _ hx _ _ h

theorem Withstands.clock {f : Int → Operation β} (h : Withstands src b (f w.now) w P) :
    Withstands src b (Operation.ask .clock >>= f) w P := .ask nofun (by rintro _ _ ⟨⟩; exact h)

theorem Withstands.mintId {f : String → Operation β}
    (h : Withstands src b (f (src.ids w.ids)) { w with ids := w.ids + 1 } P) :
    Withstands src b (Operation.ask .mintId >>= f) w P := .ask nofun (by rintro _ _ ⟨⟩; exact h)

theorem Withstands.drawCode {f : Passcode.Draw → Operation β}
    (h : Withstands src b (f (src.codes w.draws)) { w with draws := w.draws + 1 } P) :
    Withstands src b (Operation.ask .drawCode >>= f) w P := .ask nofun (by rintro _ _ ⟨⟩; exact h)

theorem Withstands.drawSalt {f : Password.Salt → Operation β}
    (h : Withstands src b (f (src.salts w.salts)) { w with salts := w.salts + 1 } P) :
    Withstands src b (Operation.ask .drawSalt >>= f) w P := .ask nofun (by rintro _ _ ⟨⟩; exact h)

theorem Withstands.say {level : Level} {text : String} {f : Unit → Operation β} (h : Withstands src b (f ()) w P) :
    Withstands src b (say level text >>= f) w P := .ask nofun (by rintro _ _ ⟨⟩; exact h)

theorem Withstands.post {m : Message} {f : Unit → Operation β}
    (h : Withstands src b (f ()) { w with outbox := w.outbox ++ [m] } P) :
    Withstands src b (Operation.ask (.post m) >>= f) w P := .ask nofun (by rintro _ _ ⟨⟩; exact h)

theorem exec_of_fails {op : Operation α} {e : ServiceError} (h : op.Fails e) :
    exec src op w = (some (.error e), w) := by
  induction h with
  | refuse e => rfl
  | say level text _ ih => exact ih

/-- An operation that is over asks nothing. -/
theorem Withstands.pure (a : β) : Withstands src b (pure a) w P :=
  fun _ _ h => absurd h (Program.not_faulted_done _)

theorem Withstands.fails {op : Operation β} {e : ServiceError} (h : op.Fails e) : Withstands src b op w P := by
  induction h with
  | refuse e => exact fun _ _ h => absurd h (Program.not_faulted_done _)
  | say level text _ ih => exact .say ih

theorem Withstands.ite {p : Prop} [Decidable p] {op op' : Operation β} {e : ServiceError} (h : op.Fails e)
    (h' : Withstands src b op' w P) : Withstands src b (if p then op else op') w P := by
  split
  next => exact .fails h
  next => exact h'

theorem Withstands.require {o : Option α} {f : α → Operation β}
    (h : ∀ a, o = some a → Withstands src b (f a) w P) : Withstands src b (require o >>= f) w P := by
  cases o with
  | none => exact fun _ _ h => absurd h Program.not_faulted_halt
  | some a => exact h a rfl

theorem Withstands.liftExcept {r : Except ServiceError α} {f : α → Operation β}
    (h : ∀ a, r = .ok a → Withstands src b (f a) w P) : Withstands src b (liftExcept r >>= f) w P := by
  cases r with
  | error e => exact fun _ _ h => absurd h (Program.not_faulted_done _)
  | ok a => exact h a rfl

/-- Where a failure is handled, by failing. -/
theorem Withstands.handled {ε : Type} {q : Query} (g : q.Reply → Except ε α) {refused : ε → Operation α}
    {f : α → Operation β} (hr : ∀ e, ∃ x, (refused e).Fails x)
    (hf : ∀ x w', fault b q w = some (x, w') →
      ∃ e y, g x = .error e ∧ (refused e).Fails y ∧ P q (some (.error y)) w')
    (hok : ∀ x w', answer src q w = (some x, w') → ∀ a, g x = .ok a → Withstands src b (f a) w' P) :
    Withstands src b ((Operation.ask q >>= fun x => Operation.handle refused (g x)) >>= f) w P := by
  rw [bind_assoc]
  refine .ask (fun x w' h => ?_) fun x w' h => ?_
  · obtain ⟨e, y, he, hy, hp⟩ := hf x w' h
    rw [he, Operation.handle, exec_of_fails (hy.bind f)]
    exact hp
  · cases hx : g x with
    | error e =>
      obtain ⟨y, hy⟩ := hr e
      exact .fails (hy.bind f)
    | ok a =>
      rw [Operation.handle, pure_bind]
      exact hok x w' h a hx

theorem Withstands.accounts {c : AccountCall} {refused : RepositoryError → Operation c.Answer}
    {f : c.Answer → Operation β} (hr : ∀ e, ∃ x, (refused e).Fails x)
    (hf : ∀ e, b.accounts c = some e → ∃ y, (refused e).Fails y ∧ P (.accounts c) (some (.error y)) w)
    (hok : ∀ a d, w.accounts.answer c w.now = (some (.ok a), d) → Withstands src b (f a) { w with accounts := d } P) :
    Withstands src b (Operation.accounts c refused >>= f) w P := by
  rw [Operation.accounts_eq]
  refine .handled _ hr (fun x w' h => ?_) fun x w' h a ha => ?_
  · simp only [fault, Breakdown.reply, Option.map_map, Option.map_eq_some_iff] at h
    obtain ⟨e, he, h⟩ := h
    cases h
    obtain ⟨y, hy, hp⟩ := hf e he
    exact ⟨e, y, rfl, hy, hp⟩
  · obtain ⟨hx, rfl⟩ := Prod.mk.inj h
    cases ha
    exact hok a _ (Prod.ext hx rfl)

/-- Where an account is only looked for. -/
theorem Withstands.find {c : AccountCall} {refused : RepositoryError → Operation c.Answer} {f : c.Answer → Operation β}
    {o : Option c.Answer} (hc : w.accounts.answer c w.now = (some (Directory.found o), w.accounts))
    (hr : ∀ e, ∃ x, (refused e).Fails x)
    (hf : ∀ e, b.accounts c = some e → ∃ y, (refused e).Fails y ∧ P (.accounts c) (some (.error y)) w)
    (hok : ∀ a, o = some a → Withstands src b (f a) w P) :
    Withstands src b (Operation.accounts c refused >>= f) w P := by
  refine .accounts hr hf fun a d h => ?_
  obtain ⟨ha, rfl⟩ := Prod.mk.inj (hc.symm.trans h)
  cases o with
  | none => cases ha
  | some x =>
    cases ha
    exact hok a rfl

theorem Withstands.sessions {c : SessionCall} {refused : StoreError → Operation c.Answer} {f : c.Answer → Operation β}
    (hr : ∀ e, ∃ x, (refused e).Fails x)
    (hf : ∀ e g, b.sessions c = some (e, g) → ∃ y, (refused e).Fails y ∧
      P (.sessions c) (some (.error y)) { w with sessions := g w.sessions })
    (hok : ∀ a x, w.sessions.answer c w.now = (some (.ok a), x) → Withstands src b (f a) { w with sessions := x } P) :
    Withstands src b (Operation.sessions c refused >>= f) w P := by
  rw [Operation.sessions_eq]
  refine .handled _ hr (fun x w' h => ?_) fun x w' h a ha => ?_
  · simp only [fault, Breakdown.reply, Option.map_map, Option.map_eq_some_iff] at h
    obtain ⟨⟨e, g⟩, he, h⟩ := h
    cases h
    obtain ⟨y, hy, hp⟩ := hf e g he
    exact ⟨e, y, rfl, hy, hp⟩
  · obtain ⟨hx, rfl⟩ := Prod.mk.inj h
    cases ha
    exact hok a _ (Prod.ext hx rfl)

theorem Withstands.getSession {jti : String} {refused : StoreError → Operation Session} {f : Session → Operation β}
    (hr : ∀ e, ∃ x, (refused e).Fails x)
    (hf : ∀ e g, b.sessions (.get jti) = some (e, g) → ∃ y, (refused e).Fails y ∧
      P (.sessions (.get jti)) (some (.error y)) { w with sessions := g w.sessions })
    (hok : ∀ x, w.sessions.live? w.now jti = some x → Withstands src b (f x) w P) :
    Withstands src b (Operation.sessions (.get jti) refused >>= f) w P := by
  refine .sessions hr hf fun x y h => ?_
  rw [SessionStore.answer, SessionStore.get] at h
  obtain ⟨hx, rfl⟩ := Prod.mk.inj h
  split at hx
  next => cases hx
  next x' hl =>
    cases hx
    exact hok x hl

theorem Withstands.codes {c : PasscodeCall} {refused : StoreError → Operation c.Answer} {f : c.Answer → Operation β}
    (hr : ∀ e, ∃ x, (refused e).Fails x)
    (hf : ∀ e, b.codes c = some e → ∃ y, (refused e).Fails y ∧ P (.codes c) (some (.error y)) w)
    (hok : ∀ a x, w.codes.answer c w.now = (some (.ok a), x) → Withstands src b (f a) { w with codes := x } P) :
    Withstands src b (Operation.codes c refused >>= f) w P := by
  rw [Operation.codes_eq]
  refine .handled _ hr (fun x w' h => ?_) fun x w' h a ha => ?_
  · simp only [fault, Breakdown.reply, Option.map_map, Option.map_eq_some_iff] at h
    obtain ⟨e, he, h⟩ := h
    cases h
    obtain ⟨y, hy, hp⟩ := hf e he
    exact ⟨e, y, rfl, hy, hp⟩
  · obtain ⟨hx, rfl⟩ := Prod.mk.inj h
    cases ha
    exact hok a _ (Prod.ext hx rfl)

theorem Withstands.verified {s : Service} {purpose : TokenPurpose} {token : String} {f : Claims → Operation β}
    (h : ∀ c, s.codec.verify w.now purpose token = .ok c → Withstands src b (f c) w P) :
    Withstands src b (s.verified purpose token >>= f) w P := by
  rw [Service.verified, bind_assoc]
  refine .clock ?_
  cases hv : s.codec.verify w.now purpose token with
  | error e => exact .fails ((Operation.Fails.say _ _ (.refuse _)).bind f)
  | ok c =>
    rw [pure_bind]
    exact h c hv

theorem Withstands.ownSession {c : Claims} {f : Session → Operation β}
    (hf : ∀ e g, b.sessions (.get c.jti) = some (e, g) → ∀ refused : StoreError → Operation Session,
      Operation.Relays .internal StoreError.message refused →
      ∃ y, (refused e).Fails y ∧ P (.sessions (.get c.jti)) (some (.error y)) { w with sessions := g w.sessions })
    (hok : ∀ x, w.sessions.live? w.now c.jti = some x → x.userId = c.userId → Withstands src b (f x) w P) :
    Withstands src b (Service.ownSession c >>= f) w P := by
  rw [Service.ownSession, bind_assoc]
  have relayed {refused : StoreError → Operation Session} (hr : Operation.Relays .internal StoreError.message refused)
      {g : Session → Operation β} (hg : ∀ x, w.sessions.live? w.now c.jti = some x → Withstands src b (g x) w P) :
      Withstands src b (Operation.sessions (.get c.jti) refused >>= g) w P :=
    .getSession hr.fails (fun e g he => hf e g he _ hr) hg
  refine relayed (Operation.relays_store ⟨_, .say _ _ (.refuse _)⟩ ⟨_, .say _ _ (.refuse _)⟩
    fun _ => .say _ _ (.refuse _)) fun x hx => ?_
  dsimp only
  by_cases hu : x.userId = c.userId
  · rw [if_neg (not_not_intro hu), pure_bind]
    exact hok x hx hu
  · rw [if_pos hu]
    exact .fails (.bind (.say _ _ (.bind (.refuse _) _)) _)

theorem Withstands.issuePair {s : Service} {identity : Identity} {f : TokenPair → Operation β}
    (h : ∀ p, s.codec.issuePair? w.now identity = some p → Withstands src b (f p) w P) :
    Withstands src b (s.issuePair identity >>= f) w P := by
  rw [Service.issuePair, bind_assoc]
  exact .clock (.require h)

end Holdings
end SignIn
