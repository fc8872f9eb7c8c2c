import SignIn.Proofs.Service.Fault

/-! What programs ask, and that carriers are asked by deliveries alone. -/

namespace SignIn

namespace Program

variable {ι : Type} {ρ : ι → Type} {α β σ : Type} {P : ι → Prop} {p : Program ρ α}

/-- All that a program may ask. -/
def Asks (P : ι → Prop) : Program ρ α → Prop
  | .call i next => P i ∧ ∀ x, (next x).Asks P
  | _ => True

theorem Asks.bind {f : α → Program ρ β} (h : p.Asks P) (hf : ∀ a, (f a).Asks P) : (p >>= f).Asks P := by
  show (p.bind f).Asks P
  induction p with
  | done a => exact hf a
  | halt => trivial
  | call i next ih => exact ⟨h.1, fun x => ih x (h.2 x)⟩

theorem Asks.mono {Q : ι → Prop} (h : p.Asks P) (hPQ : ∀ i, P i → Q i) : p.Asks Q := by
  induction p with
  | done a => trivial
  | halt => trivial
  | call i next ih => exact ⟨hPQ i h.1, fun x => ih x (h.2 x)⟩

/-- A run depends on the answers to what may be asked. -/
theorem Asks.run_congr {answer answer' : (i : ι) → σ → Option (ρ i) × σ} (h : p.Asks P)
    (ha : ∀ i s, P i → answer i s = answer' i s) (s : σ) : p.run answer s = p.run answer' s := by
  induction p generalizing s with
  | done a => rfl
  | halt => rfl
  | call i next ih =>
    rw [run, run, ha i s h.1]
    rcases answer' i s with ⟨_ | x, t⟩
    · rfl
    · exact ih x (h.2 x) t

/-- What is asked in a run, in order. -/
def asked (answer : (i : ι) → σ → Option (ρ i) × σ) : Program ρ α → σ → List ι
  | .done _, _ => []
  | .halt, _ => []
  | .call i next, s =>
    match answer i s with
    | (none, _) => [i]
    | (some x, s) => i :: (next x).asked answer s

theorem Asks.of_mem_asked {answer : (i : ι) → σ → Option (ρ i) × σ} (h : p.Asks P) {s : σ} {i : ι}
    (hi : i ∈ p.asked answer s) : P i := by
  induction p generalizing s with
  | done a => cases hi
  | halt => cases hi
  | call j next ih =>
    rw [asked] at hi
    split at hi
    next =>
      obtain rfl := List.mem_singleton.1 hi
      exact h.1
    next x t _ =>
      obtain rfl | hi := List.mem_cons.1 hi
      · exact h.1
      · exact ih x (h.2 x) hi

end Program

namespace Query

/-- The message that a carrier is asked to take. -/
def carried? : Query → Option Message
  | .send m => some m
  | _ => none

/-- Asked by sweeps. -/
def purges : Query → Bool
  | .sessions .purge | .codes .purge | .log _ => true
  | _ => false

theorem carried?_of_purges {q : Query} (h : q.purges) : q.carried? = none := by
  cases q with
  | send m => cases h
  | _ => rfl

end Query

theorem asks_sweep : sweep.Asks fun q => q.purges := by
  have note (level : Level) (text : String) : Program.Asks (fun q => q.purges) (Query.note level text) :=
    ⟨rfl, fun _ => trivial⟩
  have codes {f : Except StoreError Nat → Program Query.Reply Unit} (he : ∀ e, (f (.error e)).Asks fun q => q.purges)
      (h0 : (f (.ok 0)).Asks fun q => q.purges) (hn : ∀ n, (f (.ok (n + 1))).Asks fun q => q.purges) :
      Program.Asks (fun q => q.purges) ((Query.codes .purge).ask >>= f) := by
    refine ⟨rfl, fun x => ?_⟩
    rcases x with e | _ | n
    · exact he e
    · exact h0
    · exact hn n
  refine ⟨rfl, fun x => ?_⟩
  rcases x with e | _ | n
  · exact ⟨rfl, fun _ => codes (fun _ => note _ _) trivial fun _ => note _ _⟩
  · exact codes (fun _ => note _ _) trivial fun _ => note _ _
  · exact ⟨rfl, fun _ => codes (fun _ => note _ _) trivial fun _ => note _ _⟩

/-- The operation asks no carrier. -/
abbrev Quiet {α : Type} (op : Operation α) : Prop := Program.Asks (fun q => q.carried? = none) op.run

namespace Quiet

open Operation

variable {α β : Type}

theorem bind {op : Operation α} {f : α → Operation β} (h : Quiet op) (hf : ∀ a, Quiet (f a)) : Quiet (op >>= f) := by
  refine Program.Asks.bind h fun r => ?_
  cases r with
  | ok a => exact hf a
  | error e => trivial

theorem pure (a : α) : Quiet (Pure.pure a) := trivial

theorem refuse (e : ServiceError) : Quiet (Operation.refuse e : Operation α) := trivial

theorem ask {q : Query} (h : q.carried? = none) : Quiet (Operation.ask q) := ⟨h, fun _ => trivial⟩

theorem say (level : Level) (text : String) : Quiet (Operation.say level text) := ask rfl

theorem require (a : Option α) : Quiet (Operation.require a) := by
  cases a <;> trivial

theorem liftExcept (r : Except ServiceError α) : Quiet (liftExcept r : Operation α) := by
  cases r <;> trivial

theorem handle {ε : Type} {refused : ε → Operation α} (h : ∀ e, Quiet (refused e)) (r : Except ε α) :
    Quiet (Operation.handle refused r) := by
  cases r with
  | ok a => exact pure a
  | error e => exact h e

theorem accounts {c : AccountCall} {refused : RepositoryError → Operation c.Answer} (h : ∀ e, Quiet (refused e)) :
    Quiet (Operation.accounts c refused) := by
  rw [accounts_eq]
  exact bind (ask rfl) fun r => handle h r

theorem sessions {c : SessionCall} {refused : StoreError → Operation c.Answer} (h : ∀ e, Quiet (refused e)) :
    Quiet (Operation.sessions c refused) := by
  rw [sessions_eq]
  exact bind (ask rfl) fun r => handle h r

theorem codes {c : PasscodeCall} {refused : StoreError → Operation c.Answer} (h : ∀ e, Quiet (refused e)) :
    Quiet (Operation.codes c refused) := by
  rw [codes_eq]
  exact bind (ask rfl) fun r => handle h r

theorem told {level : Level} {text : String} {op : Operation α} (h : Quiet op) :
    Quiet (do Operation.say level text; op) :=
  bind (say level text) fun _ => h

theorem of_fails {op : Operation α} {e : ServiceError} (h : op.Fails e) : Quiet op := by
  induction h with
  | refuse e => exact refuse e
  | say level text _ ih => exact told ih

theorem relayed {ε : Type} {internal : String → ε} {message : ε → String} {refused : ε → Operation α}
    (h : Relays internal message refused) (e : ε) : Quiet (refused e) :=
  of_fails (h.fails e).choose_spec

end Quiet

namespace Service

open Operation (relays_repositoryFailure relays_storeFailure relays_absentUser relays_unknownUser relays_absentSession)

variable (s : Service)

theorem quiet_verified (purpose : TokenPurpose) (token : String) : Quiet (s.verified purpose token) := by
  refine .bind (.ask rfl) fun now => ?_
  cases s.codec.verify now purpose token with
  | ok c => exact .pure c
  | error e => exact .told (.refuse _)

theorem quiet_issuePair (identity : Identity) : Quiet (s.issuePair identity) :=
  .bind (.ask rfl) fun _ => .require _

theorem quiet_sendCode (channel : Channel) (address : String) : Quiet (s.sendCode channel address) := by
  unfold sendCode
  cases Text.filled? address with
  | none => exact .refuse _
  | some address =>
    refine .bind (.accounts (.relayed (relays_unknownUser _))) fun user => .bind (.ask rfl) fun now => ?_
    refine .bind (.ask rfl) fun draw => .bind (.require _) fun p => ?_
    refine .bind (.codes fun e => ?_) fun _ => .bind (.ask rfl) fun _ => .told (.pure _)
    cases e with
    | alreadyExists => exact .told (.refuse _)
    | _ => exact .relayed (relays_storeFailure _) _

theorem quiet_register (r : Registration) : Quiet (s.register r) := by
  unfold register
  cases Text.filled? r.name with
  | none => exact .refuse _
  | some name =>
    dsimp only
    split
    · exact .refuse _
    · refine .bind (.liftExcept _) fun channel => ?_
      split
      next address =>
        refine .bind (.liftExcept _) fun _ => .bind (.ask rfl) fun salt => ?_
        refine .told (.bind (.accounts fun e => ?_) fun user => ?_)
        · cases e with
          | uniqueViolation constraint => exact .told (.refuse _)
          | _ => exact .relayed (relays_repositoryFailure _) _
        · refine .bind (.accounts (.relayed (relays_repositoryFailure _))) fun role => ?_
          exact .bind (s.quiet_sendCode _ _) fun sent => .told (.pure _)
      next => exact .refuse _

theorem quiet_confirm (channel : Channel) (address code : String) : Quiet (confirm channel address code) := by
  unfold confirm
  split
  next address =>
    split
    next code =>
      refine .bind (.codes fun e => ?_) fun p => ?_
      · cases e with
        | notFound => exact .told (.refuse _)
        | _ => exact .relayed (relays_storeFailure _) _
      · split
        · exact .told (.refuse _)
        · refine .bind (.accounts (.relayed (relays_unknownUser _))) fun user => ?_
          refine .bind (.accounts (.relayed (relays_absentUser _))) fun _ => ?_
          exact .bind (.codes fun e => .say _ _) fun _ => .say _ _
    next => exact .refuse _
  next => exact .refuse _

theorem quiet_loginUser (channel : Channel) (address : String) : Quiet (loginUser channel address) :=
  .told (.accounts (.relayed (relays_unknownUser _)))

theorem quiet_login (c : Credentials) (ip userAgent : String) : Quiet (s.login c ip userAgent) := by
  unfold login
  -- by email or by phone, it is the same from here on
  rcases c.email.bind Text.filled? with _ | email
  rcases c.phone.bind Text.filled? with _ | phone
  · exact .refuse _
  all_goals
    refine .bind (.pure _) fun _ => .bind (quiet_loginUser _ _) fun user => ?_
    dsimp only
    split
    · exact .told (.refuse _)
    · split
      · exact .told (.refuse _)
      · refine .bind (.accounts (.relayed (relays_repositoryFailure _))) fun role => .bind (.ask rfl) fun jti => ?_
        refine .bind (s.quiet_issuePair _) fun tokens => .bind (.ask rfl) fun now => ?_
        exact .bind (.sessions (.relayed (relays_storeFailure _))) fun _ => .told (.pure _)

theorem quiet_ownSession (c : Claims) : Quiet (ownSession c) := by
  refine .bind (.sessions fun e => ?_) fun session => ?_
  · cases e with
    | notFound => exact .told (.refuse _)
    | _ => exact .relayed (relays_storeFailure _) _
  · split
    · exact .told (.refuse _)
    · exact .pure _

theorem quiet_withdraw (jti : String) : Quiet (withdraw jti) := by
  refine .sessions fun e => ?_
  cases e with
  | notFound => exact .pure _
  | _ => exact .say _ _

theorem quiet_refresh (token : String) : Quiet (s.refresh token) := by
  refine .bind (s.quiet_verified _ _) fun c => .bind (quiet_ownSession c) fun old => ?_
  refine .bind (.accounts (.relayed (relays_repositoryFailure _))) fun role => .bind (.ask rfl) fun jti => ?_
  refine .bind (s.quiet_issuePair _) fun tokens => .bind (.ask rfl) fun now => ?_
  refine .bind (.sessions (.relayed (relays_storeFailure _))) fun _ => ?_
  refine .bind (.sessions fun e => ?_) fun _ => .told (.pure _)
  refine .bind (quiet_withdraw jti) fun _ => ?_
  cases e with
  | notFound => exact .told (.refuse _)
  | _ => exact .relayed (relays_storeFailure _) _

theorem quiet_logout (token : String) : Quiet (s.logout token) := by
  refine .bind (s.quiet_verified _ _) fun c => .bind (quiet_ownSession c) fun _ => ?_
  exact .bind (.sessions (.relayed (relays_absentSession _))) fun _ => .say _ _

theorem quiet_sessionsOf (user : UserId) : Quiet (sessionsOf user) := by
  refine .bind (.accounts (.relayed (relays_absentUser _))) fun u => ?_
  exact .bind (.sessions (.relayed (relays_storeFailure _))) fun l => .told (.pure _)

theorem quiet_revoke (caller : UserId) (jti : String) : Quiet (revoke caller jti) := by
  refine .bind (.sessions (.relayed (relays_absentSession _))) fun session => ?_
  split
  · exact .told (.refuse _)
  · exact .bind (.sessions (.relayed (relays_absentSession _))) fun _ => .say _ _

theorem quiet_changePassword (user : UserId) (old new : String) : Quiet (changePassword user old new) := by
  refine .bind (.accounts (.relayed (relays_absentUser _))) fun u => ?_
  split
  · exact .told (.refuse _)
  · refine .bind (.liftExcept _) fun _ => .bind (.ask rfl) fun salt => ?_
    exact .bind (.accounts (.relayed (relays_absentUser _))) fun _ => .say _ _

theorem quiet_authenticate (token : String) : Quiet (s.authenticate token) :=
  .bind (s.quiet_verified _ _) fun _ => .pure _

theorem quiet_profile (token : String) : Quiet (s.profile token) := by
  refine .bind (s.quiet_authenticate token) fun i => .bind (.accounts (.relayed (relays_absentUser _))) fun u => ?_
  exact .bind (.accounts (.relayed (relays_repositoryFailure _))) fun role => .pure _

end Service

/-- No call asks a carrier. -/
theorem Call.quiet_operation (s : Service) (c : Call) : Quiet (c.operation s) := by
  cases c with
  | register r => exact s.quiet_register r
  | login c ip userAgent => exact s.quiet_login c ip userAgent
  | refresh token => exact s.quiet_refresh token
  | logout token => exact s.quiet_logout token
  | sessions user => exact Service.quiet_sessionsOf user
  | revoke caller jti => exact Service.quiet_revoke caller jti
  | sendCode channel address => exact s.quiet_sendCode channel address
  | confirm channel address code => exact Service.quiet_confirm channel address code
  | changePassword user old new => exact Service.quiet_changePassword user old new
  | authenticate token => exact s.quiet_authenticate token
  | profile token => exact s.quiet_profile token

end SignIn
