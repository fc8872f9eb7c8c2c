import SignIn.Proofs.Service.Asked
import SignIn.Proofs.Service.Refusal
import SignIn.Proofs.Service.Traffic
import SignIn.Proofs.Token.Genuine

/-! Calls that end one and the same session, made at the same time: the stages that they pass through, and what they
answer at each. -/

namespace SignIn

/-- The call is made to end the session `j`. -/
inductive Call.Contends (s : Service) (j : String) : Call → Prop
  | refresh {token} : (∀ now c, s.codec.verify now .refresh token = .ok c → c.jti = j) → Contends s j (.refresh token)
  | logout {token} : (∀ now c, s.codec.verify now .refresh token = .ok c → c.jti = j) → Contends s j (.logout token)
  | revoke (caller : UserId) : Contends s j (.revoke caller j)

/-- So are a refresh and a logout with the token that a login for this session was given. -/
theorem Call.contends_of_issue {s : Service} {t : Int} {identity : Identity} {token : String}
    (h : s.codec.issue? t .refresh identity = some token) :
    (Call.refresh token).Contends s identity.jti ∧ (Call.logout token).Contends s identity.jti := by
  have hj (now : Int) (c : Claims) (hc : s.codec.verify now .refresh token = .ok c) : c.jti = identity.jti := by
    rw [Token.eq_issued_of_verify h hc]
    rfl
  exact ⟨.refresh hj, .logout hj⟩

/-- Why a call is refused that ends the session `j` of the deployment `v`. -/
inductive Call.Loses (s : Service) (v : World Directory) (j : String) (now : Int) : Call → ServiceError → Prop
  | gone {c} : Loses s v j now c .sessionNotFound
  /-- the token that it brings is no longer accepted -/
  | expired {c} : c.target? s now = none → Loses s v j now c .authenticationFailed
  | foreign {caller e} : v.sessions.records.get? j = some e → e.value.userId ≠ caller →
    Loses s v j now (.revoke caller j) .forbidden

/-- The calendar has room for the tokens of a pair that is issued at `t`. -/
def TokenCodec.Lasts (k : TokenCodec) (t : Int) : Prop :=
  Instant.InCalendar (t + k.accessTtl) ∧ Instant.InCalendar (t + k.refreshTtl)

namespace Query

/-- Asked by sweeps, and by those who list sessions. -/
def tends : Query → Bool
  | .sessions .purge | .codes .purge | .accounts (.byId _) | .sessions (.list _) | .log _ => true
  | _ => false

/-- Changes neither sessions nor what is minted. -/
def looks : Query → Bool
  | .clock | .accounts (.role _) | .sessions (.get _) | .log _ => true
  | _ => false

end Query

theorem World.sessions_answer_of_looks {src : Sources} {w : World Directory} {q : Query} (h : q.looks) :
    (World.answer src q w).2.sessions = w.sessions := by
  cases q with
  | sessions c => cases c <;> first | rfl | cases h
  | _ => rfl

theorem World.now_answer (src : Sources) (q : Query) (w : World Directory) : (World.answer src q w).2.now = w.now := by
  cases q <;> rfl

theorem World.ids_le_answer (src : Sources) (q : Query) (w : World Directory) : w.ids ≤ (World.answer src q w).2.ids := by
  cases q with
  | mintId => exact Nat.le_succ _
  | _ => exact Nat.le_refl _

theorem tends_sweep : sweep.Asks fun q => q.tends := by
  refine asks_sweep.mono fun q hq => ?_
  cases q with
  | sessions c => cases c <;> first | rfl | cases hq
  | codes c => cases c <;> first | rfl | cases hq
  | log l => rfl
  | _ => cases hq

theorem tends_sessionsOf (user : UserId) : Program.Asks (fun q => q.tends) (Service.sessionsOf user).run := by
  have failure {α : Type} (text : String) (e : ServiceError) : Program.Asks (fun q : Query => q.tends)
      (do Operation.say .error text; Operation.refuse e : Operation α).run := ⟨rfl, fun _ => trivial⟩
  refine ⟨rfl, fun u => ?_⟩
  rcases u with (_ | _ | _) | u
  · trivial
  · exact failure _ _
  · exact failure _ _
  · refine ⟨rfl, fun x => ?_⟩
    cases x with
    | error e => exact failure _ _
    | ok x => exact ⟨rfl, fun _ => trivial⟩

namespace Contest

/-- How far a call is, and what it holds. -/
inductive Stage where
  | idle
  | refused (token : String)
  | minted (k : String)
  /-- the session `k` is made, and `j` is still to be ended -/
  | made (k : String)
  /-- `j` was gone, and `k` is to be taken back -/
  | beaten (k : String)
  | won (k : Option String)
  | stuck

namespace Stage

def id? : Stage → Option String
  | .minted k | .made k | .beaten k => some k
  | .won k => k
  | _ => none

/-- The session that a call has made. -/
def kept? : Stage → Option String
  | .made k | .beaten k => some k
  | .won k => k
  | _ => none

def isWon : Stage → Bool
  | .won _ => true
  | _ => false

theorem id?_of_kept? {a : Stage} {k : String} (h : a.kept? = some k) : a.id? = some k := by
  cases a <;> first | exact h | cases h

end Stage

variable {s : Service} {src : Sources} {j : String} {v w w' : World Directory} {l : List Stage} {a b : Stage} {i : Nat}

/-- A deployment in which the session `j` is as the service keeps it, and no id that is yet to be minted is `j`. -/
structure Ready (src : Sources) (j : String) (v : World Directory) : Prop where
  indexed : v.sessions.Indexed
  unminted : ∀ n, v.ids ≤ n → src.ids n ≠ j
  role : ∀ e, v.sessions.records.get? j = some e → (Directory.role? e.value.roleId).isSome

/-- Which stage a question leads to. -/
inductive Goes (s : Service) (src : Sources) (j : String) (w : World Directory) : Stage → Query → Stage → Prop
  | look {a q} : q.looks → Goes s src j w a q a
  | refuse {token} : (∀ c, s.codec.verify w.now .refresh token ≠ .ok c) → Goes s src j w .idle .clock (.refused token)
  | mint : Goes s src j w .idle .mintId (.minted (src.ids w.ids))
  | late {k} : ¬s.codec.Lasts w.now → Goes s src j w (.minted k) .clock .stuck
  | full {k x} : k ≠ "" → ¬Instant.InCalendar (w.now + s.codec.refreshTtl) →
    Goes s src j w (.minted k) (.sessions (.create k x s.codec.refreshTtl)) .stuck
  | make {k x} : k ≠ "" → Instant.InCalendar (w.now + s.codec.refreshTtl) →
    Goes s src j w (.minted k) (.sessions (.create k x s.codec.refreshTtl)) (.made k)
  | miss : Goes s src j w .idle (.sessions (.delete j)) .idle
  | take : (w.sessions.live? w.now j).isSome → Goes s src j w .idle (.sessions (.delete j)) (.won none)
  | lose {k} : Goes s src j w (.made k) (.sessions (.delete j)) (.beaten k)
  | win {k} : (w.sessions.live? w.now j).isSome → Goes s src j w (.made k) (.sessions (.delete j)) (.won (some k))
  | withdraw {k} : Goes s src j w (.beaten k) (.sessions (.delete k)) .idle

/-- The session `j`, if it is there, is the one that was there at first. -/
def protocol (s : Service) (src : Sources) (j : String) (v : World Directory) : Protocol Stage where
  known w := ∀ e, w.sessions.records.get? j = some e → v.sessions.records.get? j = some e
  goes := Goes s src j
  log := .look rfl

/-- What comes of a call that stops at a stage. -/
def Outcome (v : World Directory) (j : String) (c : Call) : Stage → Option (Except ServiceError c.Answer) → Prop
  | .idle, r => r = some (.error .sessionNotFound) ∨ r = some (.error .forbidden) ∧
    ∃ caller e, c = .revoke caller j ∧ v.sessions.records.get? j = some e ∧ e.value.userId ≠ caller
  | .refused token, r => r = some (.error .authenticationFailed) ∧ (c = .refresh token ∨ c = .logout token)
  | .won k, r => ∃ x, r = some (.ok x) ∧ (c.loggedIn? x).map (·.tokens.jti) = k
  | .stuck, r => r = none
  | _, _ => False

namespace Outcome

variable {now : Int} {c : Call}

theorem of_ok {x : c.Answer} (h : Outcome v j c a (some (.ok x))) :
    a = .won ((c.loggedIn? x).map (·.tokens.jti)) := by
  cases a with
  | won k =>
    obtain ⟨y, hy, hk⟩ := h
    cases hy
    rw [hk]
  | _ => simp [Outcome] at h

theorem of_none (h : Outcome v j c a none) : a = .stuck := by
  cases a with
  | stuck => rfl
  | _ => simp [Outcome] at h

theorem loses {e : ServiceError} (h : Outcome v j c a (some (.error e)))
    (hr : ∀ token, a = .refused token → ∀ c, s.codec.verify now .refresh token ≠ .ok c) : c.Loses s v j now e := by
  cases a with
  | idle =>
    obtain h | ⟨h, caller, x, rfl, hx, hu⟩ := h
    · cases h
      exact .gone
    · cases h
      exact .foreign hx hu
  | refused token =>
    obtain ⟨h, hc⟩ := h
    cases h
    refine .expired ?_
    have hn : (s.codec.verify now .refresh token).toOption = none := by
      cases hv : s.codec.verify now .refresh token with
      | error e => rfl
      | ok c => exact absurd hv (hr token rfl c)
    rcases hc with rfl | rfl <;> rw [Call.target?, hn, Option.map_none]
  | _ => simp [Outcome] at h

end Outcome

section Rules

open Protocol

variable {β : Type} {Q : Stage → Option (Except ServiceError β) → Prop}

theorem keeps_verified {token : String} {f : Claims → Operation β}
    (hj : ∀ now c, s.codec.verify now .refresh token = .ok c → c.jti = j)
    (hr : Q (.refused token) (some (.error .authenticationFailed)))
    (h : ∀ c : Claims, c.jti = j → (protocol s src j v).Keeps src Q .idle (f c).run) :
    (protocol s src j v).Keeps src Q .idle (s.verified .refresh token >>= f).run := by
  rw [Service.verified, bind_assoc]
  refine .ask fun w hw => ?_
  cases hv : s.codec.verify w.now .refresh token with
  | error e =>
    have hn (c : Claims) : s.codec.verify w.now .refresh token ≠ .ok c := by
      rw [hv]
      intro h
      cases h
    refine ⟨.refused token, w.now, .refuse hn, rfl, ?_⟩
    rw [hv]
    exact .fails ((Operation.Fails.say _ _ (.refuse _)).bind f) hr
  | ok c =>
    refine ⟨.idle, w.now, .look rfl, rfl, ?_⟩
    rw [hv]
    exact h c (hj _ _ hv)

/-- The session that is found is the one that was there at first. -/
theorem keeps_get {refused : StoreError → Operation Session} {f : Session → Operation β}
    (hr : (protocol s src j v).Keeps src Q .idle (refused .notFound >>= f).run)
    (h : ∀ e, v.sessions.records.get? j = some e → (protocol s src j v).Keeps src Q .idle (f e.value).run) :
    (protocol s src j v).Keeps src Q .idle (Operation.sessions (.get j) refused >>= f).run := by
  refine .sessions fun w hw => ⟨.idle, .look rfl, ?_⟩
  rw [SessionStore.answer, SessionStore.get]
  cases hl : w.sessions.live? w.now j with
  | none =>
    exact .of_error hr
  | some x =>
    obtain ⟨e, he, -, rfl⟩ := SessionStore.live?_eq_some_iff.1 hl
    exact .of_ok (h e (hw e he))

theorem keeps_ownSession {c : Claims} {f : Session → Operation β} (hc : c.jti = j)
    (hn : Q .idle (some (.error .sessionNotFound)))
    (h : ∀ e, v.sessions.records.get? j = some e → (protocol s src j v).Keeps src Q .idle (f e.value).run) :
    (protocol s src j v).Keeps src Q .idle (Service.ownSession c >>= f).run := by
  rw [Service.ownSession, bind_assoc, hc]
  refine keeps_get (.fails (.bind (.say _ _ (.refuse _)) _) hn) fun e he => ?_
  dsimp only
  split
  next => exact .fails (.bind (.say _ _ (.bind (.refuse _) _)) _) hn
  next =>
    rw [pure_bind]
    exact h e he

theorem keeps_issuePair {k : String} {identity : Identity} {f : TokenPair → Operation β} (hn : Q .stuck none)
    (h : ∀ tokens : TokenPair, tokens.jti = identity.jti → (protocol s src j v).Keeps src Q (.minted k) (f tokens).run) :
    (protocol s src j v).Keeps src Q (.minted k) (s.issuePair identity >>= f).run := by
  rw [Service.issuePair, bind_assoc]
  refine .ask fun w hw => ?_
  cases hp : s.codec.issuePair? w.now identity with
  | none =>
    have hl : ¬s.codec.Lasts w.now := by
      intro hl
      have h : (s.codec.issuePair? w.now identity).isSome := TokenCodec.isSome_issuePair?_iff.2 hl
      rw [hp] at h
      cases h
    refine ⟨.stuck, w.now, .late hl, rfl, ?_⟩
    rw [hp]
    exact hn
  | some tokens =>
    refine ⟨.minted k, w.now, .look rfl, rfl, ?_⟩
    rw [hp]
    exact h tokens (TokenCodec.issuePair?_eq_some_iff.1 hp).2.2

theorem keeps_create {k : String} {x : Session} {refused : StoreError → Operation Unit} {f : Unit → Operation β}
    (hk : k ≠ "") (hn : Q .stuck none) (h : (protocol s src j v).Keeps src Q (.made k) (f ()).run) :
    (protocol s src j v).Keeps src Q (.minted k)
      (Operation.sessions (.create k x s.codec.refreshTtl) refused >>= f).run := by
  refine .sessions fun w hw => ?_
  rw [SessionStore.answer]
  by_cases hc : Instant.InCalendar (w.now + s.codec.refreshTtl)
  · refine ⟨.made k, .make hk hc, ?_⟩
    rw [SessionStore.create_eq _ _ hk hc]
    exact .of_ok h
  · refine ⟨.stuck, .full hk hc, ?_⟩
    rw [SessionStore.create_eq_none _ _ hk hc]
    exact .of_none hn

/-- The session `j` is ended, or was gone. -/
theorem keeps_delete {refused : StoreError → Operation Unit} {f : Unit → Operation β} {lost won : Stage}
    (hl : ∀ w, Goes s src j w a (.sessions (.delete j)) lost)
    (hw : ∀ w : World Directory, (w.sessions.live? w.now j).isSome → Goes s src j w a (.sessions (.delete j)) won)
    (hr : (protocol s src j v).Keeps src Q lost (refused .notFound >>= f).run)
    (h : (protocol s src j v).Keeps src Q won (f ()).run) :
    (protocol s src j v).Keeps src Q a (Operation.sessions (.delete j) refused >>= f).run := by
  refine .sessions fun w _ => ?_
  rw [SessionStore.answer, SessionStore.delete_eq]
  split
  next hj =>
    exact ⟨won, hw w hj, .of_ok h⟩
  next =>
    exact ⟨lost, hl w, .of_error hr⟩

theorem keeps_withdraw {k : String} {f : Unit → Operation β}
    (h : (protocol s src j v).Keeps src Q .idle (f ()).run) :
    (protocol s src j v).Keeps src Q (.beaten k) (Service.withdraw k >>= f).run := by
  refine .sessions fun w _ => ⟨.idle, .withdraw, ?_⟩
  rw [SessionStore.answer, SessionStore.delete_eq]
  split
  next => exact .of_ok h
  next => exact .of_error h

end Rules

theorem keeps_refresh (hs : src.Distinct)
    (hr : ∀ e, v.sessions.records.get? j = some e → (Directory.role? e.value.roleId).isSome) {token : String}
    (hj : ∀ now c, s.codec.verify now .refresh token = .ok c → c.jti = j) :
    (protocol s src j v).Keeps src (Outcome v j (.refresh token)) .idle (s.refresh token).run := by
  unfold Service.refresh
  refine keeps_verified hj ⟨rfl, .inl rfl⟩ fun c hc => ?_
  refine keeps_ownSession hc (.inl rfl) fun e he => ?_
  obtain ⟨role, hrole⟩ := Option.isSome_iff_exists.1 (hr e he)
  refine .accounts fun w hw => ⟨.idle, .look rfl, ?_⟩
  rw [Directory.answer, hrole]
  refine .of_ok (.ask fun w hw => ⟨.minted (src.ids w.ids), src.ids w.ids, .mint, rfl, ?_⟩)
  refine keeps_issuePair rfl fun tokens ht => ?_
  refine .ask fun w' hw' => ⟨_, w'.now, .look rfl, rfl, ?_⟩
  refine keeps_create (hs.nonempty _) rfl ?_
  rw [hc]
  refine keeps_delete (fun _ => .lose) (fun _ => .win) ?_ (.say ⟨_, rfl, congrArg some ht⟩)
  dsimp only
  rw [bind_assoc]
  exact keeps_withdraw (.fails (.bind (.say _ _ (.refuse _)) _) (.inl rfl))

theorem keeps_logout {token : String} (hj : ∀ now c, s.codec.verify now .refresh token = .ok c → c.jti = j) :
    (protocol s src j v).Keeps src (Outcome v j (.logout token)) .idle (s.logout token).run := by
  unfold Service.logout
  refine keeps_verified hj ⟨rfl, .inr rfl⟩ fun c hc => ?_
  refine keeps_ownSession hc (.inl rfl) fun e he => ?_
  rw [hc]
  exact keeps_delete (fun _ => .miss) (fun _ => .take) (.fails (.bind (.refuse _) _) (.inl rfl)) (.say ⟨(), rfl, rfl⟩)

theorem keeps_revoke (caller : UserId) :
    (protocol s src j v).Keeps src (Outcome v j (.revoke caller j)) .idle (Service.revoke caller j).run := by
  unfold Service.revoke
  refine keeps_get (.fails (.bind (.refuse _) _) (.inl rfl)) fun e he => ?_
  split
  next hu => exact .fails (.say _ _ (.bind (.refuse _) _)) (.inr ⟨rfl, caller, e, rfl, he, hu⟩)
  next =>
    exact keeps_delete (fun _ => .miss) (fun _ => .take) (.fails (.bind (.refuse _) _) (.inl rfl)) (.say ⟨(), rfl, rfl⟩)

/-- Whichever call it is, it keeps to the protocol. -/
theorem keeps (hs : src.Distinct) (hv : Ready src j v) {c : Call} (hc : c.Contends s j) :
    (protocol s src j v).Keeps src (Outcome v j c) .idle (c.operation s).run := by
  cases hc with
  | refresh hj => exact keeps_refresh hs hv.role hj
  | logout hj => exact keeps_logout hj
  | revoke caller => exact keeps_revoke caller

end Contest

/-- Sessions are kept in roles that exist. -/
def SessionStore.Ranked (x : SessionStore) : Prop :=
  ∀ k e, x.records.get? k = some e → (Directory.role? e.value.roleId).isSome

namespace SessionStore.Ranked

variable {x : SessionStore}

theorem remove (h : x.Ranked) (jti : String) : (x.remove jti).Ranked := by
  intro k e he
  rw [get?_remove] at he
  split at he
  next => cases he
  next => exact h k e he

theorem opened {w : Holdings} (h : w.sessions.Ranked) (src : Sources) {y : Session} (ttl : Int)
    (hy : (Directory.role? y.roleId).isSome) : (w.opened src y ttl).sessions.Ranked := by
  intro k e he
  rw [Holdings.opened, get?_enter] at he
  split at he
  next =>
    cases he
    exact hy
  next => exact h.remove _ k e he

end SessionStore.Ranked

theorem Effect.ranked {s : Service} {src : Sources} {w w' : Holdings} {c : Call}
    {answer : Option (Except ServiceError c.Answer)} (h : Effect s src w c answer w') (hs : w.sessions.Indexed)
    (hr : w.sessions.Ranked) : w'.sessions.Ranked := by
  have of_live {k : String} {x : Session} (hx : w.sessions.live? w.now k = some x) :
      (Directory.role? x.roleId).isSome := by
    obtain ⟨e, he, -, rfl⟩ := SessionStore.live?_eq_some_iff.1 hx
    exact hr k e he
  cases h with
  | loggedIn ha =>
    obtain ⟨-, -, -, -, -, -, hrole⟩ := Credentials.admitted_eq_ok_iff.1 ha
    exact hr.opened _ _ (Option.isSome_of_eq_some hrole)
  | refreshed _ hrole =>
    refine (hr.opened _ _ ?_).remove _
    exact Option.isSome_of_eq_some hrole
  | collided hp =>
    have hold := of_live (Service.live?_of_present hp).2.1
    refine (hr.opened _ _ ?_).remove _
    exact hold
  | loggedOut => exact hr.remove _
  | revoked => exact hr.remove _
  | listed => exact fun k e he => hr k e ((SessionStore.get?_list hs).1 he).1
  | _ => exact hr

theorem Run.ranked {s : Service} {src : Sources} {moves : Int → Prop} {t : Int} {past : List Step} {w : World Directory}
    (h : Run s src moves (.fresh t) past w) : w.sessions.Ranked := by
  induction h with
  | start => exact fun k e he => by cases he
  | call c h ih => exact (Step.effect s src ⟨_, c⟩).ranked h.indexed ih
  | sweep h ih =>
    rw [World.sessions_swept]
    exact fun k e he => ih k e ((SessionStore.get?_purge h.indexed).1 he).1
  | settle _ ih => rwa [World.sessions_settled]
  | move _ _ ih => exact ih

/-- Whatever has happened to a deployment, its sessions can be contended for. -/
theorem Run.ready {s : Service} {src : Sources} {moves : Int → Prop} {t : Int} {past : List Step} {w : World Directory}
    (h : Run s src moves (.fresh t) past w) (hs : src.Distinct) {j : String} {e : Expiring Session}
    (hj : w.sessions.records.get? j = some e) : Contest.Ready src j w where
  indexed := h.indexed
  unminted _ hn hid := ((h.minted j e hj).of_le hn).ne hs.injective hid
  role := h.ranked j

end SignIn
