import SignIn.Proofs.Service.Sound

/-! Which refresh tokens are honoured: those whose session was neither used up, nor ended, nor outlived. -/

namespace SignIn

/-- No id is empty or minted twice. -/
structure Sources.Distinct (src : Sources) : Prop where
  nonempty : ∀ n, src.ids n ≠ ""
  injective : ∀ {m n}, src.ids m = src.ids n → m = n

namespace Call

/-- What a login or a refresh hands out. -/
def loggedIn? : (c : Call) → c.Answer → Option LoggedIn
  | .login .., a => some a
  | .refresh _, a => some a
  | _, _ => none

/-- The session that a call is to end. -/
def target? (s : Service) (now : Int) : Call → Option String
  | .refresh token => (s.codec.verify now .refresh token).toOption.map (·.jti)
  | .logout token => (s.codec.verify now .refresh token).toOption.map (·.jti)
  | .revoke _ jti => some jti
  | _ => none

def granted? (c : Call) : Option (Except ServiceError c.Answer) → Option LoggedIn := succeeded? c.loggedIn?

def ended? (s : Service) (now : Int) (c : Call) : Option (Except ServiceError c.Answer) → Option String :=
  succeeded? fun _ => c.target? s now

end Call

namespace Step

variable (s : Service) (src : Sources) (r : Step)

/-- What was handed out, if the call was a login or a refresh and succeeded. -/
def granted? : Option LoggedIn := r.call.granted? (r.answer s src)

/-- The session that was ended, if the call was a refresh, a logout or a revocation and succeeded. -/
def ended? : Option String := r.call.ended? s r.time (r.answer s src)

end Step

namespace SessionStore

/-- Whose session it is and in what role, while it is live. -/
def holder? (s : SessionStore) (now : Int) (jti : String) : Option (UserId × RoleId) :=
  (s.live? now jti).map fun x => (x.userId, x.roleId)

variable {s : SessionStore} {now t : Int} {jti : String}

theorem holder?_eq_some_iff {h : UserId × RoleId} :
    s.holder? now jti = some h ↔ ∃ x, s.live? now jti = some x ∧ x.userId = h.1 ∧ x.roleId = h.2 := by
  simp only [holder?, Option.map_eq_some_iff, Prod.ext_iff]

theorem holder?_of_live? {x : Session} (h : s.live? now jti = some x) :
    s.holder? now jti = some (x.userId, x.roleId) := congrArg _ h

theorem holder?_of_le (ht : now ≤ t) {h : UserId × RoleId} (hh : s.holder? t jti = some h) :
    s.holder? now jti = some h := by
  obtain ⟨x, hx, hu⟩ := holder?_eq_some_iff.1 hh
  obtain ⟨e, he, hlt, hv⟩ := live?_eq_some_iff.1 hx
  exact holder?_eq_some_iff.2 ⟨x, live?_eq_some_iff.2 ⟨e, he, by omega, hv⟩, hu⟩

theorem holder?_remove (s : SessionStore) (jti : String) (t : Int) (k : String) :
    (s.remove jti).holder? t k = if k = jti then none else s.holder? t k := by
  rw [holder?, live?_remove]
  split
  next => rfl
  next => rfl

end SessionStore

theorem Holdings.holder?_opened (src : Sources) (w : Holdings) (x : Session) (ttl t : Int) (k : String) :
    (w.opened src x ttl).sessions.holder? t k =
      if k = src.ids w.ids then (if t < w.now + ttl then some (x.userId, x.roleId) else none)
      else w.sessions.holder? t k := by
  rw [opened, SessionStore.holder?, SessionStore.live?_enter]
  split
  next =>
    by_cases h : t < w.now + ttl
    · simp [Expiring.live?, Expiring.isExpired, h]
    · simp [Expiring.live?, Expiring.isExpired, h, Int.not_lt.1 h]
  next hk => rw [SessionStore.live?_remove, if_neg hk, SessionStore.holder?]

namespace Effect

variable {s : Service} {src : Sources} {w w' : Holdings} {c : Call} {answer : Option (Except ServiceError c.Answer)}

/-- What is handed out is minted for it, and names a role that there is. -/
theorem granted_spec (h : Effect s src w c answer w') {l : LoggedIn} (hl : c.granted? answer = some l) :
    s.codec.issuePair? w.now ⟨l.id, l.name, l.roleId, src.ids w.ids⟩ = some l.tokens ∧
      (Directory.role? l.roleId).isSome ∧ w'.ids = w.ids + 1 := by
  cases h with
  | loggedIn ha ht =>
    cases hl
    obtain ⟨-, -, -, -, -, -, hr⟩ := Credentials.admitted_eq_ok_iff.1 ha
    exact ⟨ht, Option.isSome_of_eq_some hr, rfl⟩
  | refreshed hp hr ht =>
    cases hl
    exact ⟨ht, Option.isSome_of_eq_some hr, rfl⟩
  | stranded _ _ _ _ hn => cases (Call.succeeded?_eq_none hn _).symm.trans hl
  | _ => cases hl

/-- A call opens what it hands out, ends what it says, and leaves all other sessions alone. -/
theorem holder?_eq (h : Effect s src w c answer w') {t : Int} (ht : w.now ≤ t) (hs : w.sessions.Indexed)
    (hfresh : w.sessions.holder? w.now (src.ids w.ids) = none) (k : String) :
    w'.sessions.holder? t k =
      match (c.granted? answer).filter (·.tokens.jti = k) with
      | some l => if t < w.now + s.codec.refreshTtl then some (l.id, l.roleId) else none
      | none => if c.ended? s w.now answer = some k then none else w.sessions.holder? t k := by
  cases h with
  | loggedIn ha hp =>
    obtain ⟨-, -, hj⟩ := TokenCodec.issuePair?_eq_some_iff.1 hp
    rw [Holdings.loggedIn, Holdings.holder?_opened]
    by_cases hk : k = src.ids w.ids
    · simp [Call.granted?, Call.succeeded?, Call.loggedIn?, Option.filter_some, hj, hk]
    · simp [Call.granted?, Call.succeeded?, Call.loggedIn?, Call.ended?, Call.target?, Option.filter_some, hj, hk,
        Ne.symm hk]
  | @refreshed token c old role tokens hp hr htk =>
    obtain ⟨hv, hx, hu⟩ := Service.live?_of_present hp
    obtain ⟨-, -, hj⟩ := TokenCodec.issuePair?_eq_some_iff.1 htk
    -- a fresh id is nobody's, so the new session is not the one that is used up
    have hne : src.ids w.ids ≠ c.jti := by
      intro he
      rw [he, SessionStore.holder?, hx] at hfresh
      cases hfresh
    simp only [Holdings.rotated, SessionStore.holder?_remove, Holdings.holder?_opened, Call.granted?, Call.succeeded?,
      Call.loggedIn?, Call.ended?, Call.target?, Option.filter_some, hj, hv, Except.toOption, Option.map_some,
      decide_eq_true_eq]
    have hu : old.userId = c.userId := hu
    by_cases hk : k = src.ids w.ids
    · simp [hk, hne, hu]
    · simp only [hk, Ne.symm hk, if_false, Option.some.injEq, eq_comm (a := k)]
  | collided hp he =>
    obtain ⟨-, hx, -⟩ := Service.live?_of_present hp
    rw [he, SessionStore.holder?, hx] at hfresh
    cases hfresh
  | stranded _ _ _ _ hn =>
    rw [Call.granted?, Call.ended?, Call.succeeded?_eq_none hn, Call.succeeded?_eq_none hn]
    rfl
  | @loggedOut token c old hp =>
    obtain ⟨hv, -⟩ := Service.live?_of_present hp
    simp only [SessionStore.holder?_remove, Call.ended?, Call.succeeded?, Call.target?, hv, Except.toOption,
      Option.map_some, Option.some.injEq, eq_comm (a := k)]
    rfl
  | revoked hx =>
    simp only [SessionStore.holder?_remove, Call.ended?, Call.succeeded?, Call.target?, Option.some.injEq,
      eq_comm (a := k)]
    rfl
  | listed =>
    simp only [SessionStore.holder?, SessionStore.live?_list hs ht]
    rfl
  | _ => rfl

theorem jti_of_granted (h : Effect s src w c answer w') {l : LoggedIn} (hl : c.granted? answer = some l) :
    l.tokens.jti = src.ids w.ids :=
  (TokenCodec.issuePair?_eq_some_iff.1 (h.granted_spec hl).1).2.2

theorem holder?_of_granted (h : Effect s src w c answer w') {t : Int} (ht : w.now ≤ t) (hs : w.sessions.Indexed)
    (hfresh : w.sessions.holder? w.now (src.ids w.ids) = none) {l : LoggedIn} (hl : c.granted? answer = some l) :
    w'.sessions.holder? t l.tokens.jti =
      if t < w.now + s.codec.refreshTtl then some (l.id, l.roleId) else none := by
  rw [h.holder?_eq ht hs hfresh, hl, Option.filter_some, if_pos (decide_eq_true rfl)]

theorem holder?_of_ne (h : Effect s src w c answer w') {t : Int} (ht : w.now ≤ t) (hs : w.sessions.Indexed)
    (hfresh : w.sessions.holder? w.now (src.ids w.ids) = none) {k : String} (hk : src.ids w.ids ≠ k) :
    w'.sessions.holder? t k = if c.ended? s w.now answer = some k then none else w.sessions.holder? t k := by
  rw [h.holder?_eq ht hs hfresh]
  cases hl : c.granted? answer with
  | none => rfl
  | some l => rw [Option.filter_some, if_neg (by simp [h.jti_of_granted hl, hk])]

/-- Who holds a session was handed it, or held it before. -/
theorem holder?_cases (h : Effect s src w c answer w') {t : Int} (ht : w.now ≤ t) (hs : w.sessions.Indexed)
    (hfresh : w.sessions.holder? w.now (src.ids w.ids) = none) {k : String} {x : UserId × RoleId}
    (hk : w'.sessions.holder? t k = some x) :
    (∃ l, c.granted? answer = some l ∧ l.tokens.jti = k ∧ x = (l.id, l.roleId)) ∨
      w.sessions.holder? t k = some x := by
  rw [h.holder?_eq ht hs hfresh] at hk
  split at hk
  next l hl =>
    obtain ⟨hl, hj⟩ := Option.filter_eq_some_iff.1 hl
    split at hk
    next =>
      cases hk
      exact .inl ⟨l, hl, of_decide_eq_true hj, rfl⟩
    next => cases hk
  next =>
    split at hk
    next => cases hk
    next => exact .inr hk

theorem holder?_of_ended (h : Effect s src w c answer w') {k : String} (hk : c.ended? s w.now answer = some k) :
    ∃ x, w.sessions.holder? w.now k = some x := by
  have verified {token : String} {p : Claims × Session} (hp : s.present w token = .ok p)
      (ht : (s.codec.verify w.now .refresh token).toOption.map (·.jti) = some k) :
      ∃ x, w.sessions.holder? w.now k = some x := by
    obtain ⟨hv, hx, -⟩ := Service.live?_of_present hp
    rw [hv] at ht
    cases ht
    exact ⟨_, SessionStore.holder?_of_live? hx⟩
  cases h with
  | refreshed hp => exact verified hp hk
  | loggedOut hp => exact verified hp hk
  | revoked hx =>
    cases hk
    exact ⟨_, SessionStore.holder?_of_live? hx⟩
  | stranded _ _ _ _ hn => cases (Call.succeeded?_eq_none hn _).symm.trans hk
  | _ => cases hk

/-- Whoever is handed a pair of tokens has an account, if all who hold a session have one. -/
theorem user_of_granted (h : Effect s src w c answer w') (hd : w.accounts.Lawful)
    (ho : ∀ {k x}, w.sessions.holder? w.now k = some x → (w.accounts.users.get? x.1).isSome) {l : LoggedIn}
    (hl : c.granted? answer = some l) : (w.accounts.users.get? l.id).isSome := by
  cases h with
  | loggedIn ha =>
    cases hl
    obtain ⟨channel, address, -, hu, -⟩ := Credentials.admitted_eq_ok_iff.1 ha
    exact Option.isSome_of_eq_some ((Directory.byAddress?_eq_some_iff hd).1 hu).1
  | @refreshed token c old role tokens hp =>
    cases hl
    obtain ⟨-, hx, hu⟩ := Service.live?_of_present hp
    have hold := ho (SessionStore.holder?_of_live? hx)
    rwa [hu] at hold
  | stranded _ _ _ _ hn => cases (Call.succeeded?_eq_none hn _).symm.trans hl
  | _ => cases hl

end Effect

def Sources.Minted (src : Sources) (n : Nat) (k : String) : Prop := ∃ m, m < n ∧ src.ids m = k

namespace Sources

variable {src : Sources} {m n : Nat} {k : String}

theorem Minted.of_le (h : src.Minted m k) (hm : m ≤ n) : src.Minted n k := by
  obtain ⟨i, hi, hk⟩ := h
  exact ⟨i, by omega, hk⟩

theorem Minted.ne (h : src.Minted n k) (hs : ∀ {i j}, src.ids i = src.ids j → i = j) : src.ids n ≠ k := by
  obtain ⟨i, hi, rfl⟩ := h
  intro he
  have := hs he
  omega

end Sources

/-- Whether the session of what was handed out in `r` is still honoured. -/
def Step.Honoured (s : Service) (src : Sources) (past : List Step) (r : Step) (l : LoggedIn) (t : Int) : Prop :=
  t < r.time + s.codec.refreshTtl ∧ ∀ r' ∈ past, r'.ended? s src ≠ some l.tokens.jti

/-- The history of a deployment tells who holds what session. -/
structure Whitelisted (s : Service) (src : Sources) (past : List Step) (w : World Directory) : Prop where
  minted : ∀ {k h}, w.sessions.holder? w.now k = some h → src.Minted w.ids k
  ended : ∀ {r k}, r ∈ past → r.ended? s src = some k → src.Minted w.ids k
  granted : ∀ {r l}, r ∈ past → r.granted? s src = some l → src.Minted w.ids l.tokens.jti
  known : ∀ {r l}, r ∈ past → r.granted? s src = some l → (w.accounts.users.get? l.id).isSome
  owned : ∀ {k h}, w.sessions.holder? w.now k = some h → (w.accounts.users.get? h.1).isSome
  held : ∀ {r l}, r ∈ past → r.granted? s src = some l → ∀ {t}, w.now ≤ t → ∀ {h},
    w.sessions.holder? t l.tokens.jti = some h ↔ h = (l.id, l.roleId) ∧ r.Honoured s src past l t

namespace Whitelisted

variable {s : Service} {src : Sources} {past : List Step} {w : World Directory}

theorem fresh (h : Whitelisted s src past w) (hs : src.Distinct) :
    w.sessions.holder? w.now (src.ids w.ids) = none := by
  cases hk : w.sessions.holder? w.now (src.ids w.ids) with
  | none => rfl
  | some x => exact absurd rfl ((h.minted hk).ne hs.injective)

theorem minted_of_ended (h : Whitelisted s src past w) {c : Call} {k : String}
    (hk : Step.ended? s src ⟨w, c⟩ = some k) : src.Minted w.ids k := by
  obtain ⟨x, hx⟩ := (Step.effect s src ⟨w, c⟩).holder?_of_ended hk
  exact h.minted hx

theorem minted_of_granted {c : Call} {l : LoggedIn} (hl : Step.granted? s src ⟨w, c⟩ = some l) :
    src.Minted (w.perform s src c).2.ids l.tokens.jti := by
  have e := Step.effect s src ⟨w, c⟩
  have hn : (w.perform s src c).2.ids = w.ids + 1 := (e.granted_spec hl).2.2
  exact ⟨w.ids, by omega, (e.jti_of_granted hl).symm⟩

/-- Nothing can have ended a session that was opened just now. -/
theorem unended (h : Whitelisted s src past w) (hs : src.Distinct) {c : Call} {l : LoggedIn}
    (hl : Step.granted? s src ⟨w, c⟩ = some l) :
    ∀ r ∈ (⟨w, c⟩ : Step) :: past, r.ended? s src ≠ some l.tokens.jti := by
  intro r hr hj
  have hm : src.Minted w.ids l.tokens.jti := by
    rcases List.mem_cons.1 hr with rfl | hr
    · exact h.minted_of_ended hj
    · exact h.ended hr hj
  exact hm.ne hs.injective ((Step.effect s src ⟨w, c⟩).jti_of_granted hl).symm

theorem held_of_granted (h : Whitelisted s src past w) (hs : src.Distinct) (hi : w.sessions.Indexed) {c : Call}
    {l : LoggedIn} (hl : Step.granted? s src ⟨w, c⟩ = some l) {t : Int} (ht : w.now ≤ t) {x : UserId × RoleId} :
    (w.perform s src c).2.sessions.holder? t l.tokens.jti = some x ↔
      x = (l.id, l.roleId) ∧ Step.Honoured s src (⟨w, c⟩ :: past) ⟨w, c⟩ l t := by
  have ho : (w.perform s src c).2.sessions.holder? t l.tokens.jti = _ :=
    (Step.effect s src ⟨w, c⟩).holder?_of_granted ht hi (h.fresh hs) hl
  rw [ho]
  split
  next hlt =>
    constructor
    · rintro ⟨⟩
      exact ⟨rfl, hlt, h.unended hs hl⟩
    · rintro ⟨rfl, -⟩
      rfl
  next hlt => exact ⟨nofun, fun hx => absurd hx.2.1 hlt⟩

theorem held_of_mem (h : Whitelisted s src past w) (hs : src.Distinct) (hi : w.sessions.Indexed) (c : Call) {r : Step}
    (hr : r ∈ past) {l : LoggedIn} (hl : r.granted? s src = some l) {t : Int} (ht : w.now ≤ t) {x : UserId × RoleId} :
    (w.perform s src c).2.sessions.holder? t l.tokens.jti = some x ↔
      x = (l.id, l.roleId) ∧ r.Honoured s src (⟨w, c⟩ :: past) l t := by
  have ho : (w.perform s src c).2.sessions.holder? t l.tokens.jti = _ :=
    (Step.effect s src ⟨w, c⟩).holder?_of_ne ht hi (h.fresh hs) ((h.granted hr hl).ne hs.injective)
  rw [ho]
  split
  next hj => exact ⟨nofun, fun hx => absurd hj (hx.2.2 _ List.mem_cons_self)⟩
  next hj =>
    refine (h.held hr hl ht).trans (and_congr_right fun _ => and_congr_right fun _ => ?_)
    rw [List.forall_mem_cons]
    exact ⟨fun hp => ⟨hj, hp⟩, And.right⟩

theorem call (h : Whitelisted s src past w) (hs : src.Distinct) (hd : w.accounts.Lawful) (hi : w.sessions.Indexed)
    (c : Call) : Whitelisted s src (⟨w, c⟩ :: past) (w.perform s src c).2 := by
  have e : Effect s src w.holdings c _ (w.perform s src c).2.holdings := Step.effect s src ⟨w, c⟩
  have hnow := w.now_perform s src c
  have hids : w.ids ≤ (w.perform s src c).2.ids := e.ids_le
  have persists {id : UserId} (hu : (w.accounts.users.get? id).isSome) :
      ((w.perform s src c).2.accounts.users.get? id).isSome := by
    obtain ⟨u, hu⟩ := Option.isSome_iff_exists.1 hu
    obtain ⟨u', hu', -⟩ := e.extends_accounts hd id u hu
    exact Option.isSome_of_eq_some hu'
  have known {l : LoggedIn} (hl : Step.granted? s src ⟨w, c⟩ = some l) : (w.accounts.users.get? l.id).isSome :=
    e.user_of_granted hd h.owned hl
  refine {
    minted := ?_
    ended := ?_
    granted := ?_
    known := ?_
    owned := ?_
    held := ?_ }
  · intro k x hk
    rw [hnow] at hk
    obtain ⟨l, hl, rfl, -⟩ | hk := e.holder?_cases (Int.le_refl _) hi (h.fresh hs) hk
    · exact minted_of_granted hl
    · exact (h.minted hk).of_le hids
  · intro r k hr hk
    rcases List.mem_cons.1 hr with rfl | hr
    · exact (h.minted_of_ended hk).of_le hids
    · exact (h.ended hr hk).of_le hids
  · intro r l hr hl
    rcases List.mem_cons.1 hr with rfl | hr
    · exact minted_of_granted hl
    · exact (h.granted hr hl).of_le hids
  · intro r l hr hl
    rcases List.mem_cons.1 hr with rfl | hr
    · exact persists (known hl)
    · exact persists (h.known hr hl)
  · intro k x hk
    rw [hnow] at hk
    obtain ⟨l, hl, -, rfl⟩ | hk := e.holder?_cases (Int.le_refl _) hi (h.fresh hs) hk
    · exact persists (known hl)
    · exact persists (h.owned hk)
  · intro r l hr hl t ht x
    rw [hnow] at ht
    rcases List.mem_cons.1 hr with rfl | hr
    · exact h.held_of_granted hs hi hl ht
    · exact h.held_of_mem hs hi c hr hl ht

/-- Where no call is made, nothing that is live later on is lost or gained. -/
theorem idle (h : Whitelisted s src past w) {w' : World Directory} (hnow : w.now ≤ w'.now)
    (hids : w'.ids = w.ids) (ha : w'.accounts = w.accounts)
    (hs : ∀ {t k}, w'.now ≤ t → w'.sessions.holder? t k = w.sessions.holder? t k) : Whitelisted s src past w' where
  minted := by
    intro k x hk
    rw [hs (Int.le_refl _)] at hk
    rw [hids]
    exact h.minted (SessionStore.holder?_of_le hnow hk)
  ended hr hk := hids ▸ h.ended hr hk
  granted hr hl := hids ▸ h.granted hr hl
  known hr hl := ha ▸ h.known hr hl
  owned := by
    intro k x hk
    rw [hs (Int.le_refl _)] at hk
    rw [ha]
    exact h.owned (SessionStore.holder?_of_le hnow hk)
  held := by
    intro r l hr hl t ht x
    rw [hs ht]
    exact h.held hr hl (Int.le_trans hnow ht)

theorem of_run {moves : Int → Prop} {t : Int} (h : Run s src moves (.fresh t) past w) (hs : src.Distinct)
    (hm : ∀ d, moves d → 0 ≤ d) : Whitelisted s src past w := by
  induction h with
  | start =>
    refine {
      minted := ?_
      ended := ?_
      granted := ?_
      known := ?_
      owned := ?_
      held := ?_ }
    · rintro k x ⟨⟩
    · rintro r k ⟨⟩
    · rintro r l ⟨⟩
    · rintro r l ⟨⟩
    · rintro k x ⟨⟩
    · rintro r l ⟨⟩
  | call c h ih => exact ih.call hs h.lawful h.indexed c
  | @sweep past w h ih =>
    refine ih.idle (Int.le_of_eq (w.now_swept src).symm) (w.ids_swept src) (w.accounts_swept src) ?_
    intro t k ht
    rw [World.now_swept] at ht
    rw [World.sessions_swept, SessionStore.holder?, SessionStore.live?_purge h.indexed ht, SessionStore.holder?]
  | @settle past w h ih =>
    refine ih.idle (Int.le_of_eq (w.now_settled src).symm) (w.ids_settled src) (w.accounts_settled src) ?_
    intro t k _
    rw [World.sessions_settled]
  | @move past w d hd h ih =>
    have hd := hm d hd
    exact ih.idle (by dsimp only; omega) rfl rfl fun _ => rfl

end Whitelisted
end SignIn
