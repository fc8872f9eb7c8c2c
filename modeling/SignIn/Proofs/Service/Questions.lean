import SignIn.Proofs.Service.Holdings

/-! What each question does to the operation that asks it: the rest goes on with the answer. -/

namespace SignIn

namespace Holdings

open Operation (say refuse require repositoryFailure storeFailure absentUser unknownUser absentSession)

variable {α β : Type} {src : Sources} {w : Holdings}

theorem exec_clock (f : Int → Operation β) : exec src (Operation.ask .clock >>= f) w = exec src (f w.now) w := rfl

theorem exec_mintId (f : String → Operation β) :
    exec src (Operation.ask .mintId >>= f) w = exec src (f (src.ids w.ids)) { w with ids := w.ids + 1 } := rfl

theorem exec_drawCode (f : Passcode.Draw → Operation β) :
    exec src (Operation.ask .drawCode >>= f) w = exec src (f (src.codes w.draws)) { w with draws := w.draws + 1 } := rfl

theorem exec_drawSalt (f : Password.Salt → Operation β) :
    exec src (Operation.ask .drawSalt >>= f) w = exec src (f (src.salts w.salts)) { w with salts := w.salts + 1 } := rfl

theorem exec_say (level : Level) (text : String) (f : Unit → Operation β) :
    exec src (say level text >>= f) w = exec src (f ()) w := rfl

theorem exec_require (a : Option α) (f : α → Operation β) :
    exec src (require a >>= f) w =
      match a with
      | some a => exec src (f a) w
      | none => (none, w) := by
  cases a <;> rfl

theorem exec_liftExcept (r : Except ServiceError α) (f : α → Operation β) :
    exec src (liftExcept r >>= f) w =
      match r with
      | .ok a => exec src (f a) w
      | .error e => (some (.error e), w) := by
  cases r <;> rfl

theorem exec_accounts (c : AccountCall) (refused : RepositoryError → Operation c.Answer) (f : c.Answer → Operation β) :
    exec src (Operation.accounts c refused >>= f) w =
      match w.accounts.answer c w.now with
      | (some (.ok a), d) => exec src (f a) { w with accounts := d }
      | (some (.error e), d) => exec src (refused e >>= f) { w with accounts := d }
      | (none, d) => (none, { w with accounts := d }) := by
  unfold exec Operation.accounts
  change Program.run (answer src) (.call (.accounts c) _) w = _
  rw [Program.run, answer]
  cases w.accounts.answer c w.now with
  | mk o d => cases o with
    | none => rfl
    | some r => cases r <;> rfl

theorem exec_sessions (c : SessionCall) (refused : StoreError → Operation c.Answer) (f : c.Answer → Operation β) :
    exec src (Operation.sessions c refused >>= f) w =
      match w.sessions.answer c w.now with
      | (some (.ok a), d) => exec src (f a) { w with sessions := d }
      | (some (.error e), d) => exec src (refused e >>= f) { w with sessions := d }
      | (none, d) => (none, { w with sessions := d }) := by
  unfold exec Operation.sessions
  change Program.run (answer src) (.call (.sessions c) _) w = _
  rw [Program.run, answer]
  cases w.sessions.answer c w.now with
  | mk o d => cases o with
    | none => rfl
    | some r => cases r <;> rfl

theorem exec_codes (c : PasscodeCall) (refused : StoreError → Operation c.Answer) (f : c.Answer → Operation β) :
    exec src (Operation.codes c refused >>= f) w =
      match w.codes.answer c w.now with
      | (some (.ok a), d) => exec src (f a) { w with codes := d }
      | (some (.error e), d) => exec src (refused e >>= f) { w with codes := d }
      | (none, d) => (none, { w with codes := d }) := by
  unfold exec Operation.codes
  change Program.run (answer src) (.call (.codes c) _) w = _
  rw [Program.run, answer]
  cases w.codes.answer c w.now with
  | mk o d => cases o with
    | none => rfl
    | some r => cases r <;> rfl

/-! An account that is looked for. -/

theorem exec_byId (id : UserId) (refused : RepositoryError → Operation User) (f : User → Operation β) :
    exec src (Operation.accounts (.byId id) refused >>= f) w =
      match w.accounts.users.get? id with
      | some u => exec src (f u) w
      | none => exec src (refused .notFound >>= f) w := by
  rw [exec_accounts, Directory.answer]
  cases w.accounts.users.get? id <;> rfl

theorem exec_byAddress (c : Channel) (a : String) (refused : RepositoryError → Operation User)
    (f : User → Operation β) :
    exec src (Operation.accounts (.byAddress c a) refused >>= f) w =
      match w.accounts.byAddress? c a with
      | some u => exec src (f u) w
      | none => exec src (refused .notFound >>= f) w := by
  rw [exec_accounts, Directory.answer]
  cases w.accounts.byAddress? c a <;> rfl

theorem exec_role (id : RoleId) (refused : RepositoryError → Operation Role) (f : Role → Operation β) :
    exec src (Operation.accounts (.role id) refused >>= f) w =
      match Directory.role? id with
      | some role => exec src (f role) w
      | none => exec src (refused .notFound >>= f) w := by
  rw [exec_accounts, Directory.answer]
  cases Directory.role? id <;> rfl

theorem exec_verified (s : Service) (purpose : TokenPurpose) (token : String) (f : Claims → Operation β) :
    exec src (s.verified purpose token >>= f) w =
      match s.codec.verify w.now purpose token with
      | .ok c => exec src (f c) w
      | .error _ => (some (.error .authenticationFailed), w) := by
  rw [exec_bind, Service.verified, exec_clock]
  cases s.codec.verify w.now purpose token <;> rfl

theorem exec_issuePair (s : Service) (identity : Identity) (f : TokenPair → Operation β) :
    exec src (s.issuePair identity >>= f) w =
      match s.codec.issuePair? w.now identity with
      | some pair => exec src (f pair) w
      | none => (none, w) := by
  rw [exec_bind, Service.issuePair, exec_clock]
  cases s.codec.issuePair? w.now identity <;> rfl

/-! Sweeps and deliveries. -/

theorem run_ask {β : Type} (q : Query) (f : q.Reply → Program Query.Reply β) (w : Holdings) :
    Program.run (answer src) (q.ask >>= f) w =
      match answer src q w with
      | (some x, w) => Program.run (answer src) (f x) w
      | (none, w) => (none, w) := by
  change Program.run (answer src) (.call q f) w = _
  rw [Program.run]
  rcases answer src q w with ⟨_ | x, w⟩ <;> rfl

/-- What is logged of the codes that were dropped changes nothing that is held. -/
theorem run_purge_codes {f : Except StoreError Nat → Program Query.Reply Unit}
    (hf : ∀ x w, Program.run (answer src) (f x) w = (some (), w)) (w : Holdings) :
    Program.run (answer src) ((Query.codes .purge).ask >>= f) w =
      (some (), { w with codes := (PasscodeStore.purge w.codes w.now).2 }) := by
  rw [run_ask, answer, PasscodeStore.answer]
  exact hf _ _

theorem run_sweep (w : Holdings) :
    sweep.run (answer src) w =
      (some (),
        { w with sessions := (w.sessions.purge w.now).2, codes := (PasscodeStore.purge w.codes w.now).2 }) := by
  rw [sweep, run_ask, answer, SessionStore.answer]
  rcases w.sessions.purge w.now with ⟨_ | n, s⟩ <;>
  · refine run_purge_codes (fun x w => ?_) { w with sessions := s }
    rcases x with e | _ | n <;> rfl

theorem run_deliver (m : Message) (w : Holdings) : ((Service.deliver m).run (answer src) w).2 = w := by
  rw [Service.deliver, run_ask, answer]
  dsimp only
  rcases (src.carrier.send m).2 with e | _ <;> rfl

end Holdings

namespace World

theorem perform_fst (s : Service) (src : Sources) (c : Call) (w : World Directory) :
    (w.perform s src c).1 = (Holdings.exec src (c.operation s) w.holdings).1 := by
  rw [Holdings.exec_holdings]
  rfl

theorem holdings_perform (s : Service) (src : Sources) (c : Call) (w : World Directory) :
    (w.perform s src c).2.holdings = (Holdings.exec src (c.operation s) w.holdings).2 := by
  rw [Holdings.exec_holdings]
  rfl

theorem perform_of_exec {s : Service} {src : Sources} {c : Call} {w : World Directory} {w' : Holdings}
    {answer : Option (Except ServiceError c.Answer)}
    (h : Holdings.exec src (c.operation s) w.holdings = (answer, w')) :
    ∃ w₁, w.perform s src c = (answer, w₁) ∧ w₁.holdings = w' := by
  refine ⟨_, Prod.ext ?_ rfl, ?_⟩
  · rw [perform_fst, h]
  · rw [holdings_perform, h]

/-- A sweep gets to its end. -/
theorem run_sweep_fst (src : Sources) (w : World Directory) : (sweep.run (answer src) w).1 = some () := by
  have h := Program.run_map holdings (Holdings.answer_holdings src) sweep w
  rw [Holdings.run_sweep] at h
  exact (congrArg Prod.fst h).symm

theorem holdings_swept (src : Sources) (w : World Directory) :
    (w.swept src).holdings =
      { w.holdings with
        sessions := (w.sessions.purge w.now).2
        codes := (PasscodeStore.purge w.codes w.now).2 } := by
  have h := Program.run_map holdings (Holdings.answer_holdings src) sweep w
  rw [Holdings.run_sweep] at h
  exact (congrArg Prod.snd h).symm

theorem holdings_settled (src : Sources) (w : World Directory) :
    (w.settled src).holdings = { w.holdings with outbox := [] } := by
  have hm (m : Message) (w : World Directory) :
      ((Service.deliver m).run (answer src) w).2.holdings = w.holdings := by
    have h := Program.run_map holdings (Holdings.answer_holdings src) (Service.deliver m) w
    exact (congrArg Prod.snd h).symm.trans (Holdings.run_deliver m w.holdings)
  have hf (l : List Message) (w : World Directory) :
      (l.foldl (fun w m => ((Service.deliver m).run (answer src) w).2) w).holdings = w.holdings := by
    induction l generalizing w with
    | nil => rfl
    | cons m l ih => rw [List.foldl_cons, ih, hm]
  exact hf w.outbox { w with outbox := [] }

variable (src : Sources) (w : World Directory)

theorem now_swept : (w.swept src).now = w.now := congrArg Holdings.now (holdings_swept src w)

theorem accounts_swept : (w.swept src).accounts = w.accounts := congrArg Holdings.accounts (holdings_swept src w)

theorem sessions_swept : (w.swept src).sessions = (w.sessions.purge w.now).2 :=
  congrArg Holdings.sessions (holdings_swept src w)

theorem codes_swept : (w.swept src).codes = (PasscodeStore.purge w.codes w.now).2 :=
  congrArg Holdings.codes (holdings_swept src w)

theorem ids_swept : (w.swept src).ids = w.ids := congrArg Holdings.ids (holdings_swept src w)

theorem now_settled : (w.settled src).now = w.now := congrArg Holdings.now (holdings_settled src w)

theorem accounts_settled : (w.settled src).accounts = w.accounts := congrArg Holdings.accounts (holdings_settled src w)

theorem sessions_settled : (w.settled src).sessions = w.sessions := congrArg Holdings.sessions (holdings_settled src w)

theorem codes_settled : (w.settled src).codes = w.codes := congrArg Holdings.codes (holdings_settled src w)

theorem ids_settled : (w.settled src).ids = w.ids := congrArg Holdings.ids (holdings_settled src w)

end World
end SignIn
