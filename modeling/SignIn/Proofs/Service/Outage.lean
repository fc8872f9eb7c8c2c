import SignIn.Proofs.Service.Device
import SignIn.Proofs.Service.Entitlement
import SignIn.Proofs.Service.Fault

/-! A collaborator that is out is the service's own failure: the caller is told that and no more, and what was begun is
taken back. -/

namespace SignIn

/-- Every collaborator is out, for one and the same reason. -/
def Breakdown.outage (why : String) : Breakdown where
  accounts _ := some (.internal why)
  sessions _ := some (.internal why, id)
  codes _ := some (.internal why)

/-- The text of a failure to answer. -/
def Query.outage (why : String) : Query → String
  | .accounts _ => (RepositoryError.internal why).message
  | _ => (StoreError.internal why).message

/-- The session that a refresh uses up cannot be taken, and it is not known what has become of the sessions. -/
def Breakdown.lost (e : StoreError) (g : SessionStore → SessionStore) : Breakdown where
  sessions
    | .delete _ => some (e, g)
    | _ => none

def StoreError.unspent : StoreError → ServiceError
  | .notFound => .sessionNotFound
  | e => .internal e.message

/-- By then the call has done what it does not take back. -/
def Call.commits : Call → Query → Bool
  | .register _, .accounts (.create _) => false
  | .register _, _ => true
  | _, .codes (.delete ..) => true
  | _, _ => false

/-- What comes of a call where one of its questions meets with an outage. -/
inductive Outage (s : Service) (src : Sources) (why : String) (w : Holdings) :
    (c : Call) → Query → Option (Except ServiceError c.Answer) → Holdings → Prop
  | reported {c q} (i d n : Nat) : c.commits q = false →
    Outage s src why w c q (some (.error (.internal (q.outage why)))) (w.spend i d n)
  /-- the user has been made by then -/
  | stranded {r f q} (d : Nat) : r.form = .ok f → f.Admissible s w.accounts → (Call.register r).commits q →
    Outage s src why w (.register r) q (some (.error (.internal (q.outage why))))
      ((w.enrolled src s f r.password).spend 0 d 0)
  /-- the code is left where it was -/
  | marked {channel address code a u d} : Text.filled? address = some a → w.accounts.OwnedBy channel a u →
    w.accounts.Edits u (u.verify channel w.now) d →
    Outage s src why w (.confirm channel address code) (.codes (.delete channel a)) (some (.ok ()))
      { w with accounts := d }

/-- What comes of a refresh where the session it uses up cannot be taken: the new one is taken back. -/
structure Withdrawn (s : Service) (src : Sources) (e : StoreError) (g : SessionStore → SessionStore) (w : Holdings)
    (token : String) (q : Query) (answer : Option (Except ServiceError LoggedIn)) (w' : Holdings) : Prop where
  asked : ∃ c, s.codec.verify w.now .refresh token = .ok c ∧ q = .sessions (.delete c.jti)
  answer_eq : answer = some (.error e.unspent)
  held : ∃ x, w' = { w.spend 1 0 0 with
    sessions := (g (w.opened src x s.codec.refreshTtl).sessions).remove (src.ids w.ids) }
  gone : w'.sessions.records.get? (src.ids w.ids) = none
  /-- where nothing else has changed, all is as it was -/
  restored : g = id → w'.sessions = w.sessions

/-- What becomes of a refresh to the session `jti` when the session `k` cannot be taken. -/
def Service.giveUp (k jti : String) (e : StoreError) : Operation Unit := do
  withdraw jti
  match e with
  | .notFound =>
    Operation.say .warn s!"Refresh lost race for session {k}"
    Operation.refuse .sessionNotFound
  | e => Operation.storeFailure "refresh" e

theorem Holdings.exec_giveUp {β : Type} (src : Sources) (w : Holdings) (k jti : String) (e : StoreError)
    (f : Unit → Operation β) :
    exec src (Service.giveUp k jti e >>= f) w =
      (some (.error e.unspent), { w with sessions := w.sessions.remove jti }) := by
  unfold Service.giveUp
  rw [bind_assoc, exec_withdraw]
  cases e <;> rfl

/-- A session is used up, or the new one is taken back. -/
theorem Holdings.Withstands.useUp {src : Sources} {b : Breakdown} {w : Holdings} {β : Type}
    {P : Query → Option (Except ServiceError β) → Holdings → Prop} {f : Unit → Operation β} {k jti : String}
    (hl : (w.sessions.live? w.now k).isSome)
    (hf : ∀ e g, b.sessions (.delete k) = some (e, g) →
      P (.sessions (.delete k)) (some (.error e.unspent)) { w with sessions := (g w.sessions).remove jti })
    (hok : Withstands src b (f ()) { w with sessions := w.sessions.remove k } P) :
    Withstands src b (Operation.sessions (.delete k) (Service.giveUp k jti) >>= f) w P := by
  rw [Operation.sessions_eq, bind_assoc]
  refine .ask (fun x w' h => ?_) fun x w' h => ?_
  · simp only [fault, Breakdown.reply, Option.map_map, Option.map_eq_some_iff] at h
    obtain ⟨⟨e, g⟩, he, h⟩ := h
    cases h
    dsimp only [Operation.handle]
    rw [exec_giveUp]
    exact hf e g he
  · rw [answer, SessionStore.answer, SessionStore.delete_eq, if_pos hl] at h
    cases h
    exact hok

namespace Outage

open Operation Holdings

variable {s : Service} {src : Sources} {why : String} {w : Holdings}

section Rules

variable {β : Type} {P : Query → Option (Except ServiceError β) → Holdings → Prop}

theorem accounts {c : AccountCall} {refused : RepositoryError → Operation c.Answer} {f : c.Answer → Operation β}
    (hr : Relays .internal RepositoryError.message refused)
    (hp : P (.accounts c) (some (.error (.internal (Query.outage why (.accounts c))))) w)
    (hok : ∀ a d, w.accounts.answer c w.now = (some (.ok a), d) →
      Withstands src (.outage why) (f a) { w with accounts := d } P) :
    Withstands src (.outage why) (Operation.accounts c refused >>= f) w P :=
  .accounts hr.fails (by rintro _ ⟨⟩; exact ⟨_, hr.reports why, hp⟩) hok

theorem find {c : AccountCall} {refused : RepositoryError → Operation c.Answer} {f : c.Answer → Operation β}
    {o : Option c.Answer} (hc : w.accounts.answer c w.now = (some (Directory.found o), w.accounts))
    (hr : Relays .internal RepositoryError.message refused)
    (hp : P (.accounts c) (some (.error (.internal (Query.outage why (.accounts c))))) w)
    (hok : ∀ a, o = some a → Withstands src (.outage why) (f a) w P) :
    Withstands src (.outage why) (Operation.accounts c refused >>= f) w P :=
  .find hc hr.fails (by rintro _ ⟨⟩; exact ⟨_, hr.reports why, hp⟩) hok

theorem sessions {c : SessionCall} {refused : StoreError → Operation c.Answer} {f : c.Answer → Operation β}
    (hr : Relays .internal StoreError.message refused)
    (hp : P (.sessions c) (some (.error (.internal (Query.outage why (.sessions c))))) w)
    (hok : ∀ a x, w.sessions.answer c w.now = (some (.ok a), x) →
      Withstands src (.outage why) (f a) { w with sessions := x } P) :
    Withstands src (.outage why) (Operation.sessions c refused >>= f) w P :=
  .sessions hr.fails (by rintro _ _ ⟨⟩; exact ⟨_, hr.reports why, hp⟩) hok

theorem getSession {jti : String} {refused : StoreError → Operation Session} {f : Session → Operation β}
    (hr : Relays .internal StoreError.message refused)
    (hp : P (.sessions (.get jti)) (some (.error (.internal (Query.outage why (.sessions (.get jti)))))) w)
    (hok : ∀ x, w.sessions.live? w.now jti = some x → Withstands src (.outage why) (f x) w P) :
    Withstands src (.outage why) (Operation.sessions (.get jti) refused >>= f) w P :=
  .getSession hr.fails (by rintro _ _ ⟨⟩; exact ⟨_, hr.reports why, hp⟩) hok

theorem codes {c : PasscodeCall} {refused : StoreError → Operation c.Answer} {f : c.Answer → Operation β}
    (hr : Relays .internal StoreError.message refused)
    (hp : P (.codes c) (some (.error (.internal (Query.outage why (.codes c))))) w)
    (hok : ∀ a x, w.codes.answer c w.now = (some (.ok a), x) →
      Withstands src (.outage why) (f a) { w with codes := x } P) :
    Withstands src (.outage why) (Operation.codes c refused >>= f) w P :=
  .codes hr.fails (by rintro _ ⟨⟩; exact ⟨_, hr.reports why, hp⟩) hok

theorem ownSession {c : Claims} {f : Session → Operation β}
    (hp : P (.sessions (.get c.jti)) (some (.error (.internal (Query.outage why (.sessions (.get c.jti)))))) w)
    (hok : ∀ x, w.sessions.live? w.now c.jti = some x → Withstands src (.outage why) (f x) w P) :
    Withstands src (.outage why) (Service.ownSession c >>= f) w P :=
  .ownSession (by rintro _ _ ⟨⟩ _ hr; exact ⟨_, hr.reports why, hp⟩) fun x hx _ => hok x hx

end Rules

theorem login (c : Credentials) (ip userAgent : String) :
    w.Withstands src (.outage why) (s.login c ip userAgent) (Outage s src why w (.login c ip userAgent)) := by
  unfold Service.login
  -- by email or by phone, it is the same from here on
  rcases c.email.bind Text.filled? with _ | email
  rcases c.phone.bind Text.filled? with _ | phone
  · exact .fails (.bind (.refuse _) _)
  all_goals
    dsimp only
    rw [pure_bind, Service.loginUser, bind_assoc]
    refine .say ?_
    refine find rfl (relays_unknownUser _) (.reported 0 0 0 rfl) fun u hu => ?_
    refine .ite (.say _ _ (.bind (.refuse _) _)) (.ite (.say _ _ (.bind (.refuse _) _)) ?_)
    refine find rfl (relays_repositoryFailure _) (.reported 0 0 0 rfl) fun role hrole => ?_
    refine .mintId (.issuePair fun tokens ht => .clock ?_)
    refine sessions (relays_storeFailure _) (.reported 1 0 0 rfl) fun a x hx => ?_
    exact .say (.pure _)

theorem logout (token : String) :
    w.Withstands src (.outage why) (s.logout token) (Outage s src why w (.logout token)) := by
  unfold Service.logout
  refine .verified fun c hc => ?_
  refine ownSession (.reported 0 0 0 rfl) fun x hx => ?_
  refine sessions (relays_absentSession _) (.reported 0 0 0 rfl) fun a y hy => ?_
  exact .say (.pure _)

theorem revoke (caller : UserId) (jti : String) :
    w.Withstands src (.outage why) (Service.revoke caller jti) (Outage s src why w (.revoke caller jti)) := by
  unfold Service.revoke
  refine getSession (relays_absentSession _) (.reported 0 0 0 rfl) fun x hx => ?_
  refine .ite (.say _ _ (.bind (.refuse _) _)) ?_
  refine sessions (relays_absentSession _) (.reported 0 0 0 rfl) fun a y hy => ?_
  exact .say (.pure _)

theorem sessionsOf (user : UserId) :
    w.Withstands src (.outage why) (Service.sessionsOf user) (Outage s src why w (.sessions user)) := by
  unfold Service.sessionsOf
  refine find rfl (relays_absentUser _) (.reported 0 0 0 rfl) fun u hu => ?_
  refine sessions (relays_storeFailure _) (.reported 0 0 0 rfl) fun l x hx => ?_
  exact .say (.pure _)

theorem changePassword (user : UserId) (old new : String) :
    w.Withstands src (.outage why) (Service.changePassword user old new)
      (Outage s src why w (.changePassword user old new)) := by
  unfold Service.changePassword
  refine find rfl (relays_absentUser _) (.reported 0 0 0 rfl) fun u hu => ?_
  refine .ite (.say _ _ (.bind (.refuse _) _)) (.liftExcept fun x hx => .drawSalt ?_)
  refine accounts (relays_absentUser _) (.reported 0 0 1 rfl) fun a d hd => ?_
  exact .say (.pure _)

theorem authenticate (token : String) :
    w.Withstands src (.outage why) (s.authenticate token) (Outage s src why w (.authenticate token)) :=
  .verified fun _ _ => .pure _

theorem profile (token : String) :
    w.Withstands src (.outage why) (s.profile token) (Outage s src why w (.profile token)) := by
  rw [Service.profile, Service.authenticate, bind_assoc]
  refine .verified fun c hc => ?_
  rw [pure_bind]
  refine find rfl (relays_absentUser _) (.reported 0 0 0 rfl) fun u hu => ?_
  refine find rfl (relays_repositoryFailure _) (.reported 0 0 0 rfl) fun role hrole => ?_
  exact .pure _

/-- A code is sent once the store has it, and nothing that comes after can be out. -/
theorem sendCode_bind {β : Type} {P : Query → Option (Except ServiceError β) → Holdings → Prop} {channel : Channel}
    {address : String} {f : CodeSent → Operation β}
    (hfind : ∀ a, P (.accounts (.byAddress channel a))
      (some (.error (.internal (Query.outage why (.accounts (.byAddress channel a)))))) w)
    (hsave : ∀ p, P (.codes (.save p s.codeTtl))
      (some (.error (.internal (Query.outage why (.codes (.save p s.codeTtl)))))) (w.spend 0 1 0))
    (hf : ∀ a w', Withstands src (.outage why) (f a) w' P) :
    Withstands src (.outage why) (s.sendCode channel address >>= f) w P := by
  unfold Service.sendCode
  cases Text.filled? address with
  | none => exact .fails (.bind (.refuse _) _)
  | some a =>
    dsimp only
    rw [bind_assoc]
    refine find rfl (relays_unknownUser _) (hfind a) fun u hu => ?_
    simp only [bind_assoc]
    refine .clock (.drawCode (.require fun p hp => ?_))
    refine codes (relays_store ⟨_, .say _ _ (.refuse _)⟩ ⟨_, .say _ _ (.refuse _)⟩ fun _ => .say _ _ (.refuse _))
      (hsave p) fun x y hx => ?_
    refine .post (.say ?_)
    rw [pure_bind]
    exact hf _ _

theorem sendCode (channel : Channel) (address : String) :
    w.Withstands src (.outage why) (s.sendCode channel address) (Outage s src why w (.sendCode channel address)) := by
  rw [← bind_pure (s.sendCode channel address)]
  exact sendCode_bind (fun _ => .reported 0 0 0 rfl) (fun _ => .reported 0 1 0 rfl) fun a w' => .pure a

theorem register (r : Registration) :
    w.Withstands src (.outage why) (s.register r) (Outage s src why w (.register r)) := by
  rw [Service.register_eq]
  cases hf : r.form with
  | error e => exact .fails (.refuse e)
  | ok f =>
    dsimp only
    unfold Service.enroll
    refine .drawSalt (.say ?_)
    refine accounts (relays_repository ⟨_, .say _ _ (.refuse _)⟩ (fun _ => ⟨_, .say _ _ (.refuse _)⟩) fun _ =>
      .say _ _ (.refuse _)) (.reported 0 0 1 rfl) fun u d hd => ?_
    obtain ⟨ha, rfl, rfl⟩ := Form.admissible_of_create hd
    refine find rfl (relays_repositoryFailure _) (.stranded 0 hf ha rfl) fun role hrole => ?_
    refine sendCode_bind (fun _ => .stranded 0 hf ha rfl) (fun _ => .stranded 1 hf ha rfl) fun a w' => ?_
    exact .say (.pure _)

theorem confirm (hd : w.accounts.Lawful) (channel : Channel) (address code : String) :
    w.Withstands src (.outage why) (Service.confirm channel address code)
      (Outage s src why w (.confirm channel address code)) := by
  unfold Service.confirm
  cases ha : Text.filled? address with
  | none => exact .fails (.refuse _)
  | some a =>
    cases Text.filled? code with
    | none => exact .fails (.refuse _)
    | some c =>
      dsimp only
      refine codes (relays_store ⟨_, .say _ _ (.refuse _)⟩ ⟨_, .say _ _ (.refuse _)⟩ fun _ => .say _ _ (.refuse _))
        (.reported 0 0 0 rfl) fun p x hx => ?_
      obtain ⟨-, rfl⟩ := Prod.mk.inj hx
      refine .ite (.say _ _ (.bind (.refuse _) _)) ?_
      refine find rfl (relays_unknownUser _) (.reported 0 0 0 rfl) fun u hu => ?_
      refine accounts (relays_absentUser _) (.reported 0 0 0 rfl) fun b d hb => ?_
      obtain rfl : (w.accounts.change u.id (·.verify channel w.now)).2 = d := congrArg Prod.snd hb
      obtain ⟨hid, -⟩ := (Directory.byAddress?_eq_some_iff hd).1 hu
      rw [codes_eq, bind_assoc]
      refine .ask (fun x w' h => ?_) fun x w' h => ?_
      · cases h
        exact .marked ha (hd.ownedBy hu) (hd.edits hid (·.verify channel w.now))
      · cases x with
        | error e => exact .say (.say (.pure ()))
        | ok x => exact .say (.pure ())

theorem refresh (hs : w.sessions.Indexed) (hm : w.sessions.Minted src w.ids)
    (hi : ∀ m n, src.ids m = src.ids n → m = n) (token : String) :
    w.Withstands src (.outage why) (s.refresh token) (Outage s src why w (.refresh token)) := by
  unfold Service.refresh
  refine .verified fun c hc => ?_
  refine ownSession (.reported 0 0 0 rfl) fun x hx => ?_
  refine find rfl (relays_repositoryFailure _) (.reported 0 0 0 rfl) fun role hrole => ?_
  refine .mintId (.issuePair fun tokens ht => .clock ?_)
  refine sessions (relays_storeFailure _) (.reported 1 0 0 rfl) fun a y hy => ?_
  obtain rfl := SessionStore.enter_of_create hy
  refine .useUp (k := c.jti) ?_ ?_ (.say (.pure _))
  · exact Option.isSome_of_eq_some (hm.live?_opened hi hx _ _)
  · rintro _ _ ⟨⟩
    show Outage s src why w _ _ _ { w.spend 1 0 0 with
      sessions := (w.opened src _ s.codec.refreshTtl).sessions.remove (src.ids w.ids) }
    rw [hm.remove_opened hi hs]
    exact .reported 1 0 0 rfl

theorem refresh_lost (hs : w.sessions.Indexed) (hm : w.sessions.Minted src w.ids)
    (hi : ∀ m n, src.ids m = src.ids n → m = n) (token : String) (e : StoreError) (g : SessionStore → SessionStore) :
    w.Withstands src (.lost e g) (s.refresh token) (Withdrawn s src e g w token) := by
  unfold Service.refresh
  refine .verified fun c hc => .ownSession nofun fun x hx _ => ?_
  refine .find rfl (relays_repositoryFailure _).fails nofun fun role hrole => ?_
  refine .mintId (.issuePair fun tokens ht => .clock ?_)
  refine .sessions (relays_storeFailure _).fails nofun fun a y hy => ?_
  obtain rfl := SessionStore.enter_of_create hy
  refine .useUp ?_ ?_ (.say (.pure _))
  · exact Option.isSome_of_eq_some (hm.live?_opened hi hx _ _)
  · rintro _ _ ⟨⟩
    exact {
      asked := ⟨c, hc, rfl⟩
      answer_eq := rfl
      held := ⟨_, rfl⟩
      gone := by
        dsimp only
        rw [SessionStore.get?_remove, if_pos rfl]
      restored := by
        rintro rfl
        exact hm.remove_opened hi hs _ _ }

theorem of_call (hd : w.accounts.Lawful) (hs : w.sessions.Indexed) (hm : w.sessions.Minted src w.ids)
    (hi : ∀ m n, src.ids m = src.ids n → m = n) (c : Call) :
    w.Withstands src (.outage why) (c.operation s) (Outage s src why w c) := by
  cases c with
  | register r => exact register r
  | login c ip userAgent => exact login c ip userAgent
  | refresh token => exact refresh hs hm hi token
  | logout token => exact logout token
  | sessions user => exact sessionsOf user
  | revoke caller jti => exact revoke caller jti
  | sendCode channel address => exact sendCode channel address
  | confirm channel address code => exact confirm hd channel address code
  | changePassword user old new => exact changePassword user old new
  | authenticate token => exact authenticate token
  | profile token => exact profile token

end Outage

/-- A session that has been opened to take the place of another. -/
structure Reopened where
  claims : Claims
  old : Session
  role : Role
  jti : String
  tokens : TokenPair

/-- A refresh up to where it uses up the session that the token names. -/
def Service.reopen (s : Service) (token : String) : Operation Reopened := do
  let c ← s.verified .refresh token
  let old ← ownSession c
  let role ← Operation.accounts (.role old.roleId) (Operation.repositoryFailure "refresh")
  let jti ← Operation.ask .mintId
  let tokens ← s.issuePair ⟨c.userId, c.userName, old.roleId, jti⟩
  let now ← Operation.ask .clock
  Operation.sessions (.create jti ⟨"", old.userId, old.roleId, old.userAgent, old.ip, now⟩ s.codec.refreshTtl)
    (Operation.storeFailure "refresh")
  return ⟨c, old, role, jti, tokens⟩

theorem Service.refresh_eq (s : Service) (token : String) :
    s.refresh token = s.reopen token >>= fun x => do
      Operation.sessions (.delete x.claims.jti) (giveUp x.claims.jti x.jti)
      Operation.say .info s!"Rotated session {x.claims.jti} to {x.jti} for user {x.claims.userId}"
      return ⟨x.claims.userId, x.claims.userName, x.old.roleId, x.role.name, x.tokens⟩ := by
  simp only [reopen, bind_assoc, pure_bind]
  rfl

namespace Holdings

variable {s : Service} {src : Sources} {b : Breakdown} {w w' : Holdings}

theorem faulted_bind {α β : Type} {op : Operation α} {f : α → Operation β} {a : α} {q : Query}
    {r : Option (Except ServiceError β) × Holdings} (h : exec src op w = (some (.ok a), w'))
    (hf : (f a).run.Faulted (answer src) (fault b) w' q r) : (op >>= f).run.Faulted (answer src) (fault b) w q r :=
  Program.Faulted.bind h hf

theorem exec_reopen {token : String} {c : Claims} {old : Session} {role : Role} {tokens : TokenPair}
    (hp : s.present w token = .ok (c, old)) (hr : Directory.role? old.roleId = some role)
    (ht : s.codec.issuePair? w.now ⟨c.userId, c.userName, old.roleId, src.ids w.ids⟩ = some tokens)
    (hj : src.ids w.ids ≠ "") :
    exec src (s.reopen token) w = (some (.ok ⟨c, old, role, src.ids w.ids, tokens⟩),
      w.opened src ⟨"", old.userId, old.roleId, old.userAgent, old.ip, w.now⟩ s.codec.refreshTtl) := by
  rw [Service.reopen, exec_present, hp]
  dsimp only
  rw [exec_role, hr]
  dsimp only
  rw [exec_open s (fun jti => ⟨c.userId, c.userName, old.roleId, jti⟩)
    (fun now => ⟨"", old.userId, old.roleId, old.userAgent, old.ip, now⟩), ht]
  dsimp only
  rw [if_neg hj]
  rfl

/-- A refresh that would succeed asks for the session it uses up to be taken. -/
theorem faulted_refresh {token : String} {l : LoggedIn} (h : (exec src (s.refresh token) w).1 = some (.ok l)) :
    ∃ k, ∀ b : Breakdown, (b.sessions (.delete k)).isSome →
      ∃ r, (s.refresh token).run.Faulted (answer src) (fault b) w (.sessions (.delete k)) r := by
  have e := Effect.refresh s src w token
  rw [h] at e
  generalize (exec src (s.refresh token) w).2 = w' at e
  cases e with
  | @refreshed _ c old role tokens hp hr ht hj =>
    refine ⟨c.jti, fun b hb => ?_⟩
    obtain ⟨⟨e, g⟩, he⟩ := Option.isSome_iff_exists.1 hb
    have hd (w : Holdings) :
        fault b (.sessions (.delete c.jti)) w = some (.error e, { w with sessions := g w.sessions }) := by
      rw [fault, Breakdown.reply, he]
      rfl
    rw [Service.refresh_eq]
    exact ⟨_, faulted_bind (exec_reopen hp hr ht hj) (.here (hd _))⟩

end Holdings

theorem World.faulted_refresh {s : Service} {src : Sources} {w : World Directory} {token : String} {l : LoggedIn}
    (h : (w.perform s src (.refresh token)).1 = some (.ok l)) :
    ∃ k, ∀ b : Breakdown, (b.sessions (.delete k)).isSome →
      ∃ r, (s.refresh token).run.Faulted (answer src) (fault b) w (.sessions (.delete k)) r := by
  obtain ⟨k, hk⟩ := Holdings.faulted_refresh ((w.perform_fst s src _).symm.trans h)
  refine ⟨k, fun b hb => ?_⟩
  obtain ⟨r, hr⟩ := hk b hb
  exact hr.of_map World.holdings (Holdings.answer_holdings src) (Holdings.fault_holdings b)

/-- A collaborator that is out is reported as the service's own failure, in words that say nothing of it to the caller,
and leaves accounts, sessions and codes as they were: but for a user who was made by then, and a code that was good. A
refresh that cannot take the session it uses up takes back the one it has opened. -/
theorem reports_outages {s : Service} {src : Sources} {moves : Int → Prop} {t : Int} {past : List Step}
    {w : World Directory} (hi : ∀ m n, src.ids m = src.ids n → m = n) (h : Run s src moves (.fresh t) past w) :
    (∀ (c : Call) why q r, (c.operation s).run.Faulted (World.answer src) (World.fault (.outage why)) w q r →
      Outage s src why w.holdings c q r.1 r.2.holdings) ∧
    (∀ token e g q r, (s.refresh token).run.Faulted (World.answer src) (World.fault (.lost e g)) w q r →
      Withdrawn s src e g w.holdings token q r.1 r.2.holdings) ∧
    ∀ why why', (ServiceError.internal why).status = 500 ∧
      (ServiceError.internal why).clientMessage = (ServiceError.internal why').clientMessage ∧
      (ServiceError.internal why).body = (ServiceError.internal why').body :=
  ⟨fun c _ _ _ hr => (Outage.of_call h.lawful h.indexed h.minted hi c).of_world hr,
    fun token e g _ _ hr => (Outage.refresh_lost h.indexed h.minted hi token e g).of_world hr,
    fun _ _ => ⟨rfl, rfl, rfl⟩⟩

/-- A newcomer's refresh that finds the store of sessions out, or the session it uses up gone, comes to nothing. -/
theorem reports_outages_newcomer : ∃ (past : List Step) (w : World Directory) (token k : String),
    Run Sample.service Sample.sources (0 ≤ ·) (.fresh 0) past w ∧
    (∃ r, (Sample.service.refresh token).run.Faulted (World.answer Sample.sources)
        (World.fault (.outage "timeout")) w (.sessions (.delete k)) r ∧
      r.1 = some (.error (.internal "Store error: timeout")) ∧ r.2.accounts = w.accounts ∧
      r.2.sessions = w.sessions ∧ r.2.codes = w.codes) ∧
    ∃ r, (Sample.service.refresh token).run.Faulted (World.answer Sample.sources)
        (World.fault (.lost .notFound (·.remove k))) w (.sessions (.delete k)) r ∧
      r.1 = some (.error .sessionNotFound) ∧ r.2.sessions.records.get? (Sample.sources.ids w.ids) = none := by
  obtain ⟨past, w, r, r', l, m, h, -, -, hr', hc, hm, -, -⟩ := Sample.ada_refreshes
  obtain ⟨past', h'⟩ := h.before_of_mem hr'
  obtain ⟨w', c⟩ := r'
  cases hc
  obtain ⟨a, ha, -⟩ := Call.succeeded?_eq_some_iff.1 hm
  obtain ⟨k, hk⟩ := World.faulted_refresh ha
  obtain ⟨⟨x, w₁⟩, h₁⟩ := hk (.outage "timeout") rfl
  obtain ⟨r₂, h₂⟩ := hk (.lost .notFound (·.remove k)) rfl
  obtain ⟨hout, hlost, -⟩ := reports_outages (fun _ _ => Sample.sources_distinct.injective) h'
  refine ⟨past', w', _, k, h', ⟨_, h₁, ?_⟩, r₂, h₂, (hlost _ _ _ _ _ h₂).answer_eq, (hlost _ _ _ _ _ h₂).gone⟩
  have ho := hout (.refresh l.tokens.refresh) _ _ _ h₁
  generalize hw : w₁.holdings = v at ho
  cases ho with
  | reported =>
    exact ⟨rfl, congrArg Holdings.accounts hw, congrArg Holdings.sessions hw, congrArg Holdings.codes hw⟩

end SignIn
