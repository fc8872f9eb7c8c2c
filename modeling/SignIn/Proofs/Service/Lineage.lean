import SignIn.Proofs.Service.Refusal
import SignIn.Proofs.Session.Map

/-! Where the sessions that are kept come from: each goes back to one login, through the refreshes that renewed it. -/

namespace SignIn

variable {s : Service} {src : Sources} {past : List Step} {w : World Directory}

/-- The call was a login that succeeded, from this device. -/
structure Step.LogsIn (s : Service) (src : Sources) (past : List Step) (r : Step) (l : LoggedIn)
    (ip userAgent : String) : Prop where
  mem : r ∈ past
  call : ∃ c, r.call = .login c ip userAgent
  granted : r.granted? s src = some l

/-- The refresh token that was brought had been handed out. -/
def Step.BringsHandedOut (s : Service) (src : Sources) (past : List Step) (r : Step) : Prop :=
  ∃ r' ∈ past, ∃ l, r'.granted? s src = some l ∧ r.call = .refresh l.tokens.refresh

/-- What a chain of refreshes, the latest first, has made of what a login handed out. -/
inductive Lineage (s : Service) (src : Sources) (past : List Step) (l : LoggedIn) : List Step → LoggedIn → Prop
  | opened : Lineage s src past l [] l
  | renewed {rs l' r l''} : Lineage s src past l rs l' → r ∈ past → r.ended? s src = some l'.tokens.jti →
    r.granted? s src = some l'' → Lineage s src past l (r :: rs) l''

theorem Lineage.cons {l l' : LoggedIn} {rs : List Step} (h : Lineage s src past l rs l') (r : Step) :
    Lineage s src (r :: past) l rs l' := by
  induction h with
  | opened => exact .opened
  | renewed _ hr he hg ih => exact ih.renewed (List.mem_cons_of_mem _ hr) he hg

theorem Step.LogsIn.cons {r : Step} {l : LoggedIn} {ip userAgent : String} (h : r.LogsIn s src past l ip userAgent)
    (r' : Step) : r.LogsIn s src (r' :: past) l ip userAgent where
  mem := List.mem_cons_of_mem _ h.mem
  call := h.call
  granted := h.granted

/-- The latest of a chain of refreshes has handed out what it led to. -/
theorem Lineage.granted {r : Step} {l l' : LoggedIn} {ip userAgent : String} {rs : List Step}
    (h : Lineage s src past l rs l') (hr : r.LogsIn s src past l ip userAgent) :
    rs.headD r ∈ past ∧ (rs.headD r).granted? s src = some l' := by
  cases h with
  | opened => exact ⟨hr.mem, hr.granted⟩
  | renewed _ hr _ hg => exact ⟨hr, hg⟩

/-- A chain leads to one session. -/
theorem Lineage.unique {r : Step} {l m m' : LoggedIn} {ip userAgent : String} {rs : List Step}
    (h : Lineage s src past l rs m) (h' : Lineage s src past l rs m') (hr : r.LogsIn s src past l ip userAgent) :
    m = m' := Option.some.inj ((h.granted hr).2.symm.trans (h'.granted hr).2)

theorem Lineage.ended_of_suffix {l l' : LoggedIn} {r : Step} {rs rs' : List Step} (h : Lineage s src past l rs l')
    (hs : r :: rs' <:+ rs) :
    ∃ l₁ l₂, Lineage s src past l rs' l₁ ∧ r ∈ past ∧ r.ended? s src = some l₁.tokens.jti ∧
      r.granted? s src = some l₂ := by
  induction h with
  | opened => simp at hs
  | renewed hl hr he hg ih =>
    rcases List.suffix_cons_iff.1 hs with heq | hs
    · cases heq
      exact ⟨_, _, hl, hr, he, hg⟩
    · exact ih hs

/-- A login uses up no session. -/
theorem Step.LogsIn.ended?_eq_none {r : Step} {l : LoggedIn} {ip userAgent : String}
    (h : r.LogsIn s src past l ip userAgent) : r.ended? s src = none := by
  obtain ⟨c, hc⟩ := h.call
  obtain ⟨w, call⟩ := r
  cases hc
  unfold ended? Call.ended? Call.succeeded?
  split
  next => rfl
  next => rfl

/-- Only a refresh both uses up a session and hands one out. -/
theorem Step.refreshes {r : Step} {k : String} {l : LoggedIn} (he : r.ended? s src = some k)
    (hg : r.granted? s src = some l) : ∃ token, r.call = .refresh token := by
  obtain ⟨w, c⟩ := r
  obtain ⟨a, -, ht⟩ := Call.succeeded?_eq_some_iff.1 he
  obtain ⟨b, -, hl⟩ := Call.succeeded?_eq_some_iff.1 hg
  cases c with
  | refresh token => exact ⟨token, rfl⟩
  | login => cases ht
  | _ => cases hl

theorem Call.target?_of_verify {now : Int} {token : String} {c : Claims}
    (h : s.codec.verify now .refresh token = .ok c) :
    (Call.refresh token).target? s now = some c.jti ∧ (Call.logout token).target? s now = some c.jti := by
  simp only [target?, h]
  exact ⟨rfl, rfl⟩

namespace Effect

variable {w w' : Holdings} {c : Call} {answer : Option (Except ServiceError c.Answer)}

theorem records_of_login {c : Credentials} {ip userAgent : String} {l : LoggedIn}
    (h : Effect s src w (.login c ip userAgent) (some (.ok l)) w') :
    w'.sessions.records = w.sessions.records.insert l.tokens.jti
      ⟨⟨l.tokens.jti, l.id, l.roleId, userAgent, ip, w.now⟩, w.now + s.codec.refreshTtl⟩ := by
  have hj : l.tokens.jti = src.ids w.ids := h.jti_of_granted rfl
  rw [hj]
  cases h with
  | loggedIn => exact SessionStore.records_enter_remove _ _ _

theorem records_of_refresh {token : String} {l : LoggedIn} (h : Effect s src w (.refresh token) (some (.ok l)) w') :
    ∃ c old, s.present w token = .ok (c, old) ∧ l.id = c.userId ∧ l.name = c.userName ∧ l.roleId = old.roleId ∧
      w'.sessions.records = (w.sessions.records.insert l.tokens.jti
        ⟨{ old with jti := l.tokens.jti, createdAt := w.now }, w.now + s.codec.refreshTtl⟩).erase c.jti := by
  have hj : l.tokens.jti = src.ids w.ids := h.jti_of_granted rfl
  rw [hj]
  cases h with
  | refreshed hp =>
    refine ⟨_, _, hp, rfl, rfl, rfl, ?_⟩
    rw [Holdings.rotated, SessionStore.records_remove, Holdings.opened, SessionStore.records_enter_remove]

/-- What is kept after a call was kept before and not ended by it, or is what the call handed out: a login's own, or
what the session that was used up has become. -/
theorem record_cases (h : Effect s src w c answer w') (hs : w.sessions.Indexed) {k : String} {e : Expiring Session}
    (he : w'.sessions.records.get? k = some e) :
    (w.sessions.records.get? k = some e ∧ c.ended? s w.now answer ≠ some k) ∨
    ∃ l, c.granted? answer = some l ∧ l.tokens.jti = k ∧ e.expiresAt = w.now + s.codec.refreshTtl ∧
      ((∃ c' ip userAgent, c = .login c' ip userAgent ∧ e.value = ⟨k, l.id, l.roleId, userAgent, ip, w.now⟩) ∨
        ∃ j old, c.ended? s w.now answer = some j ∧ w.sessions.records.get? j = some old ∧
          e.value = { old.value with jti := k, createdAt := w.now }) := by
  have not_ended : none ≠ some k := (Option.some_ne_none k).symm
  cases h with
  | loggedIn ha ht hj =>
    rw [(loggedIn ha ht hj).records_of_login, Table.get?_insert] at he
    split at he
    next hk =>
      cases he
      exact .inr ⟨_, rfl, hk.symm, rfl, .inl ⟨_, _, _, rfl, by rw [hk]⟩⟩
    next => exact .inl ⟨he, not_ended⟩
  | @refreshed token _ _ role tokens hp hr ht hj =>
    obtain ⟨c, old, hp, -, -, -, hrec⟩ := (refreshed hp hr ht hj).records_of_refresh
    obtain ⟨hv, hl, -⟩ := Service.live?_of_present hp
    have hended (a : LoggedIn) : (Call.refresh token).ended? s w.now (some (.ok a)) = some c.jti :=
      (Call.target?_of_verify hv).1
    rw [hrec, Table.get?_erase, Table.get?_insert] at he
    split at he
    next => cases he
    next hne =>
      split at he
      next hk =>
        cases he
        obtain ⟨e', he', -, rfl⟩ := SessionStore.live?_eq_some_iff.1 hl
        exact .inr ⟨_, rfl, hk.symm, rfl, .inr ⟨_, e', hended _, he', by rw [hk]⟩⟩
      next =>
        refine .inl ⟨he, ?_⟩
        rw [hended]
        exact fun h => hne (Option.some.inj h).symm
  | collided hp hj =>
    rw [Holdings.rotated, SessionStore.get?_remove] at he
    split at he
    next => cases he
    next hne =>
      rw [Holdings.opened, hj, SessionStore.get?_enter, if_neg hne, SessionStore.get?_remove, if_neg hne] at he
      exact .inl ⟨he, not_ended⟩
  | @loggedOut token c old hp =>
    obtain ⟨hv, -⟩ := Service.live?_of_present hp
    rw [SessionStore.get?_remove] at he
    split at he
    next => cases he
    next hne =>
      refine .inl ⟨he, ?_⟩
      rw [Call.ended?, Call.succeeded?, (Call.target?_of_verify hv).2]
      exact fun h => hne (Option.some.inj h).symm
  | revoked hx =>
    rw [SessionStore.get?_remove] at he
    split at he
    next => cases he
    next hne => exact .inl ⟨he, fun h => hne (Option.some.inj h).symm⟩
  | listed => exact .inl ⟨((SessionStore.get?_list hs).1 he).1, not_ended⟩
  | stranded _ _ _ _ hn =>
    refine .inl ⟨he, ?_⟩
    rw [Call.ended?, Call.succeeded?_eq_none hn]
    exact not_ended
  | _ => exact .inl ⟨he, not_ended⟩

theorem record_of_ended (h : Effect s src w c answer w') {k : String} (hk : c.ended? s w.now answer = some k) :
    ∃ e, w.sessions.records.get? k = some e := by
  obtain ⟨x, hx⟩ := h.holder?_of_ended hk
  obtain ⟨y, hy, -⟩ := SessionStore.holder?_eq_some_iff.1 hx
  obtain ⟨e, he, -⟩ := SessionStore.live?_eq_some_iff.1 hy
  exact ⟨e, he⟩

/-- A refresh hands its user what the session allowed that it used up. -/
theorem granted_of_ended (h : Effect s src w c answer w') {k : String} (hk : c.ended? s w.now answer = some k)
    {l : LoggedIn} (hl : c.granted? answer = some l) :
    ∃ e, w.sessions.records.get? k = some e ∧ e.value.userId = l.id ∧ e.value.roleId = l.roleId := by
  cases h with
  | refreshed hp =>
    cases hl
    obtain ⟨hv, hx, hu⟩ := Service.live?_of_present hp
    obtain ⟨e, he, -, rfl⟩ := SessionStore.live?_eq_some_iff.1 hx
    rw [Call.ended?, Call.succeeded?, (Call.target?_of_verify hv).1] at hk
    cases hk
    exact ⟨e, he, hu, rfl⟩
  | stranded _ _ _ _ hn => cases (Call.succeeded?_eq_none hn _).symm.trans hl
  | loggedIn => cases hk
  | _ => cases hl

end Effect

/-- The history tells of each session that is kept how it came about, and no session was handed out or ended twice. -/
structure Traced (s : Service) (src : Sources) (past : List Step) (w : World Directory) : Prop where
  ended : ∀ {r k}, r ∈ past → r.ended? s src = some k → src.Minted w.ids k ∧ w.sessions.records.get? k = none
  endedOnce : ∀ {r r' k}, r ∈ past → r' ∈ past → r.ended? s src = some k → r'.ended? s src = some k → r = r'
  granted : ∀ {r l}, r ∈ past → r.granted? s src = some l → src.Minted w.ids l.tokens.jti
  grantedOnce : ∀ {r r' l l'}, r ∈ past → r' ∈ past → r.granted? s src = some l → r'.granted? s src = some l' →
    l.tokens.jti = l'.tokens.jti → r = r'
  linked : ∀ {r k l}, r ∈ past → r.ended? s src = some k → r.granted? s src = some l →
    ∃ r' ∈ past, ∃ l', r'.granted? s src = some l' ∧ l'.tokens.jti = k ∧ l.id = l'.id ∧ l.roleId = l'.roleId
  kept : ∀ {k e}, w.sessions.records.get? k = some e →
    ∃ r l ip userAgent rs l', r.LogsIn s src past l ip userAgent ∧ Lineage s src past l rs l' ∧ l'.tokens.jti = k ∧
      e = ⟨⟨k, l.id, l.roleId, userAgent, ip, (rs.headD r).time⟩, (rs.headD r).time + s.codec.refreshTtl⟩

namespace Traced

variable {r : Step} {l l' : LoggedIn} {ip userAgent : String} {rs : List Step}

theorem eq_of_jti (h : Traced s src past w) {r r' : Step} (hr : r ∈ past) (hr' : r' ∈ past)
    (hl : r.granted? s src = some l) (hl' : r'.granted? s src = some l') (hj : l.tokens.jti = l'.tokens.jti) :
    r = r' ∧ l = l' := by
  obtain rfl := h.grantedOnce hr hr' hl hl' hj
  exact ⟨rfl, Option.some.inj (hl.symm.trans hl')⟩

/-- All sessions of a lineage are one user's, in one role. -/
theorem kin (h : Traced s src past w) (hr : r.LogsIn s src past l ip userAgent) (hl : Lineage s src past l rs l') :
    l'.id = l.id ∧ l'.roleId = l.roleId := by
  induction hl with
  | opened => exact ⟨rfl, rfl⟩
  | renewed hl hr' he hg ih =>
    obtain ⟨r₁, hr₁, l₁, hl₁, hj, hid, hrole⟩ := h.linked hr' he hg
    obtain ⟨hm, hlg⟩ := hl.granted hr
    obtain ⟨-, rfl⟩ := h.eq_of_jti hr₁ hm hl₁ hlg hj
    exact ⟨hid.trans ih.1, hrole.trans ih.2⟩

/-- What is kept was handed out by the latest of its lineage. -/
theorem granted_of_kept (h : Traced s src past w) {k : String} {e : Expiring Session}
    (he : w.sessions.records.get? k = some e) :
    ∃ r ∈ past, ∃ l, r.granted? s src = some l ∧ l.tokens.jti = k ∧ e.value.userId = l.id ∧
      e.value.roleId = l.roleId := by
  obtain ⟨r, l, ip, userAgent, rs, l', hr, hl, hj, rfl⟩ := h.kept he
  obtain ⟨hid, hrole⟩ := h.kin hr hl
  obtain ⟨hm, hg⟩ := hl.granted hr
  exact ⟨_, hm, l', hg, hj, hid.symm, hrole.symm⟩

theorem call (h : Traced s src past w) (hi : ∀ m n, src.ids m = src.ids n → m = n) (hs : w.sessions.Indexed)
    (hm : w.sessions.Minted src w.ids) (c : Call) : Traced s src (⟨w, c⟩ :: past) (w.perform s src c).2 := by
  have e : Effect s src w.holdings c _ (w.perform s src c).2.holdings := Step.effect s src ⟨w, c⟩
  have hids : w.ids ≤ (w.perform s src c).2.ids := e.ids_le
  have minted {k : String} (hk : Step.ended? s src ⟨w, c⟩ = some k) : src.Minted w.ids k := by
    obtain ⟨x, hx⟩ := e.record_of_ended hk
    exact hm k x hx
  have before {k : String} {x : Expiring Session} (hk : src.Minted w.ids k)
      (hx : (w.perform s src c).2.sessions.records.get? k = some x) :
      w.sessions.records.get? k = some x ∧ Step.ended? s src ⟨w, c⟩ ≠ some k := by
    obtain hx | ⟨l, hl, rfl, -⟩ := e.record_cases hs hx
    · exact hx
    · exact absurd (e.jti_of_granted hl).symm (hk.ne (hi _ _))
  have unused {r : Step} {l l' : LoggedIn} (hr : r ∈ past) (hl : r.granted? s src = some l)
      (hl' : Step.granted? s src ⟨w, c⟩ = some l') : l'.tokens.jti ≠ l.tokens.jti := by
    rw [e.jti_of_granted hl']
    exact (h.granted hr hl).ne (hi _ _)
  refine {
    ended := ?_
    endedOnce := ?_
    granted := ?_
    grantedOnce := ?_
    linked := ?_
    kept := ?_ }
  · intro r k hr hk
    have gone : src.Minted w.ids k ∧ ∀ x, w.sessions.records.get? k = some x → Step.ended? s src ⟨w, c⟩ = some k := by
      rcases List.mem_cons.1 hr with rfl | hr
      · exact ⟨minted hk, fun _ _ => hk⟩
      · obtain ⟨hm, hn⟩ := h.ended hr hk
        exact ⟨hm, fun x hx => by rw [hn] at hx; cases hx⟩
    refine ⟨gone.1.of_le hids, ?_⟩
    cases hx : (w.perform s src c).2.sessions.records.get? k with
    | none => rfl
    | some x =>
      obtain ⟨hx, hn⟩ := before gone.1 hx
      exact absurd (gone.2 x hx) hn
  · intro r r' k hr hr' hk hk'
    have once {r : Step} (hr : r ∈ past) (hk : r.ended? s src = some k) : Step.ended? s src ⟨w, c⟩ ≠ some k := by
      intro hc
      obtain ⟨x, hx⟩ := e.record_of_ended hc
      have hx : w.sessions.records.get? k = some x := hx
      rw [(h.ended hr hk).2] at hx
      cases hx
    rcases List.mem_cons.1 hr with rfl | hr <;> rcases List.mem_cons.1 hr' with rfl | hr'
    · rfl
    · exact absurd hk (once hr' hk')
    · exact absurd hk' (once hr hk)
    · exact h.endedOnce hr hr' hk hk'
  · intro r l hr hl
    rcases List.mem_cons.1 hr with rfl | hr
    · exact Whitelisted.minted_of_granted hl
    · exact (h.granted hr hl).of_le hids
  · intro r r' l l' hr hr' hl hl' hj
    rcases List.mem_cons.1 hr with rfl | hr <;> rcases List.mem_cons.1 hr' with rfl | hr'
    · rfl
    · exact absurd hj (unused hr' hl' hl)
    · exact absurd hj.symm (unused hr hl hl')
    · exact h.grantedOnce hr hr' hl hl' hj
  · intro r k l hr hk hl
    rcases List.mem_cons.1 hr with rfl | hr
    · obtain ⟨x, hx, hid, hrole⟩ := e.granted_of_ended hk hl
      obtain ⟨r', hr', l', hl', hj, hid', hrole'⟩ := h.granted_of_kept hx
      exact ⟨r', List.mem_cons_of_mem _ hr', l', hl', hj, hid.symm.trans hid', hrole.symm.trans hrole'⟩
    · obtain ⟨r', hr', h⟩ := h.linked hr hk hl
      exact ⟨r', List.mem_cons_of_mem _ hr', h⟩
  · intro k x hx
    obtain ⟨hx, -⟩ | ⟨l, hl, rfl, ht, ⟨c', ip, userAgent, hc, hv⟩ | ⟨j, old, hj, ho, hv⟩⟩ := e.record_cases hs hx
    · obtain ⟨r, l, ip, userAgent, rs, l', hr, hl, hkept⟩ := h.kept hx
      exact ⟨r, l, ip, userAgent, rs, l', hr.cons _, hl.cons _, hkept⟩
    · refine ⟨⟨w, c⟩, l, ip, userAgent, [], l, ⟨List.mem_cons_self, ⟨c', hc⟩, hl⟩, .opened, rfl, ?_⟩
      cases x
      cases hv
      cases ht
      rfl
    · obtain ⟨r, l₁, ip, userAgent, rs, l₂, hr, hl₂, rfl, rfl⟩ := h.kept ho
      refine ⟨r, l₁, ip, userAgent, ⟨w, c⟩ :: rs, l, hr.cons _, (hl₂.cons _).renewed List.mem_cons_self hj hl, rfl, ?_⟩
      cases x
      cases hv
      cases ht
      rfl

/-- Where no call is made, no session is gained. -/
theorem idle (h : Traced s src past w) {w' : World Directory} (hids : w'.ids = w.ids)
    (hs : ∀ {k e}, w'.sessions.records.get? k = some e → w.sessions.records.get? k = some e) :
    Traced s src past w' where
  ended := by
    intro r k hr hk
    obtain ⟨hm, hn⟩ := h.ended hr hk
    refine ⟨hids ▸ hm, ?_⟩
    cases hx : w'.sessions.records.get? k with
    | none => rfl
    | some x => rw [hs hx] at hn; cases hn
  endedOnce := h.endedOnce
  granted hr hl := hids ▸ h.granted hr hl
  grantedOnce := h.grantedOnce
  linked := h.linked
  kept he := h.kept (hs he)

theorem of_run {moves : Int → Prop} {t : Int} (h : Run s src moves (.fresh t) past w)
    (hi : ∀ m n, src.ids m = src.ids n → m = n) : Traced s src past w := by
  induction h with
  | start => exact ⟨nofun, nofun, nofun, nofun, nofun, nofun⟩
  | call c h ih => exact ih.call hi h.indexed h.minted c
  | @sweep past w h ih =>
    refine ih.idle (w.ids_swept src) fun he => ?_
    rw [World.sessions_swept] at he
    exact ((SessionStore.get?_purge h.indexed).1 he).1
  | @settle past w h ih =>
    refine ih.idle (w.ids_settled src) fun he => ?_
    rwa [World.sessions_settled] at he
  | move _ _ ih => exact ih.idle rfl id

/-- No session is of two lineages. -/
theorem lineage_unique (h : Traced s src past w) {r r' : Step} {l l' m m' : LoggedIn}
    {ip ip' userAgent userAgent' : String} {rs rs' : List Step} (hr : r.LogsIn s src past l ip userAgent) (hr' : r'.LogsIn s src past l' ip' userAgent')
    (hm : Lineage s src past l rs m) (hm' : Lineage s src past l' rs' m') (hj : m.tokens.jti = m'.tokens.jti) :
    r = r' ∧ l = l' ∧ rs = rs' := by
  induction hm generalizing rs' m' with
  | opened =>
    cases hm' with
    | opened =>
      obtain ⟨rfl, rfl⟩ := h.eq_of_jti hr.mem hr'.mem hr.granted hr'.granted hj
      exact ⟨rfl, rfl, rfl⟩
    | renewed _ hmem he hg =>
      obtain ⟨rfl, -⟩ := h.eq_of_jti hr.mem hmem hr.granted hg hj
      rw [hr.ended?_eq_none] at he
      cases he
  | @renewed rs m r₁ m₁ hm hmem he hg ih =>
    cases hm' with
    | opened =>
      obtain ⟨rfl, -⟩ := h.eq_of_jti hmem hr'.mem hg hr'.granted hj
      rw [hr'.ended?_eq_none] at he
      cases he
    | renewed hm' hmem' he' hg' =>
      obtain ⟨rfl, -⟩ := h.eq_of_jti hmem hmem' hg hg' hj
      obtain ⟨hrr, hll, rfl⟩ := ih hm' (Option.some.inj (he.symm.trans he'))
      exact ⟨hrr, hll, rfl⟩

/-- Of two sessions of a lineage one came before the other and was used up for it. -/
theorem suffix_or_renewed (h : Traced s src past w) {m m' : LoggedIn} {rs' : List Step}
    (hr : r.LogsIn s src past l ip userAgent) (hm : Lineage s src past l rs m) (hm' : Lineage s src past l rs' m') :
    rs' <:+ rs ∨ ∃ r' ∈ past, r'.ended? s src = some m.tokens.jti ∧ ∃ m'', r'.granted? s src = some m'' := by
  induction hm' with
  | opened => exact .inl List.nil_suffix
  | @renewed rs' m₁ r₁ m₂ hm₁ hr₁ he hg ih =>
    obtain ⟨t, rfl⟩ | hused := ih
    · rcases List.eq_nil_or_concat t with rfl | ⟨t, r₂, rfl⟩
      · obtain rfl := hm.unique hm₁ hr
        exact .inr ⟨r₁, hr₁, he, m₂, hg⟩
      · have hs : r₂ :: rs' <:+ t.concat r₂ ++ rs' := ⟨t, by simp⟩
        obtain ⟨m₃, -, hm₃, hr₂, he₂, -⟩ := hm.ended_of_suffix hs
        obtain rfl := hm₁.unique hm₃ hr
        obtain rfl := h.endedOnce hr₁ hr₂ he he₂
        exact .inl hs
    · exact .inr hused

end Traced

end SignIn
