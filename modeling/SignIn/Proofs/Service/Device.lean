import SignIn.Proofs.Service.Lineage

/-! A login stays one device: of all sessions that refreshes make of it one is kept, until it is ended. -/

namespace SignIn

variable {s : Service} {src : Sources} {past : List Step} {w : World Directory} {r : Step} {l : LoggedIn}
  {ip userAgent : String}

/-- A token that was handed out leads to its session, and the session that replaces it goes by the same name. -/
theorem Step.renews_handedOut {r' : Step} {l' : LoggedIn} (hl : r.granted? s src = some l)
    (hc : r'.call = .refresh l.tokens.refresh) (hl' : r'.granted? s src = some l') :
    r'.ended? s src = some l.tokens.jti ∧ l'.name = l.name := by
  obtain ⟨w, c⟩ := r'
  cases hc
  have e := Step.effect s src ⟨w, .refresh l.tokens.refresh⟩
  obtain ⟨a, ha, ha'⟩ := Call.succeeded?_eq_some_iff.1 hl'
  cases ha'
  rw [ha] at e
  obtain ⟨c, old, hp, -, hname, -, -⟩ := e.records_of_refresh
  obtain ⟨hv, -, -⟩ := Service.live?_of_present hp
  obtain ⟨-, hi, hj⟩ := TokenCodec.issuePair?_eq_some_iff.1 ((r.effect s src).granted_spec hl).1
  obtain rfl : c = _ := Token.eq_issued_of_verify hi hv
  refine ⟨?_, hname⟩
  rw [ended?, ha, hj]
  exact (Call.target?_of_verify hv).1

/-- What is left of a login: one session of its device, which refreshes renew, until that is ended. -/
structure Step.StaysOneDevice (s : Service) (src : Sources) (past : List Step) (w : World Directory) (r : Step)
    (l : LoggedIn) (ip userAgent : String) : Prop where
  holder : ∀ {rs m}, Lineage s src past l rs m → m.id = l.id ∧ m.roleId = l.roleId
  tokens : ∀ {rs m}, Lineage s src past l rs m →
    s.codec.issuePair? (rs.headD r).time ⟨l.id, m.name, l.roleId, m.tokens.jti⟩ = some m.tokens
  /-- as long as only refresh tokens are brought that had been handed out -/
  name : ∀ {rs m}, Lineage s src past l rs m → (∀ r' ∈ rs, r'.BringsHandedOut s src past) → m.name = l.name
  /-- a record is as the latest refresh made it -/
  record : ∀ {rs m e}, Lineage s src past l rs m → w.sessions.records.get? m.tokens.jti = some e →
    e = ⟨⟨m.tokens.jti, l.id, l.roleId, userAgent, ip, (rs.headD r).time⟩, (rs.headD r).time + s.codec.refreshTtl⟩
  latest : ∀ {rs m rs' m'}, Lineage s src past l rs m → (w.sessions.records.get? m.tokens.jti).isSome →
    Lineage s src past l rs' m' → rs' <:+ rs
  single : ∀ {rs m rs' m'}, Lineage s src past l rs m → (w.sessions.records.get? m.tokens.jti).isSome →
    Lineage s src past l rs' m' → (w.sessions.records.get? m'.tokens.jti).isSome → m' = m
  /-- once a session is logged out of or revoked, nothing is kept -/
  none : ∀ {rs m r'}, Lineage s src past l rs m → r' ∈ past → r'.ended? s src = some m.tokens.jti →
    (∀ token, r'.call ≠ .refresh token) →
    ∀ {rs' m'}, Lineage s src past l rs' m' → w.sessions.records.get? m'.tokens.jti = none

namespace Traced

theorem name_eq (h : Traced s src past w) (hr : r.LogsIn s src past l ip userAgent) {rs : List Step} {m : LoggedIn}
    (hm : Lineage s src past l rs m) (hb : ∀ r' ∈ rs, r'.BringsHandedOut s src past) : m.name = l.name := by
  induction hm with
  | opened => rfl
  | renewed hm hr' he hg ih =>
    obtain ⟨r₁, hr₁, l₁, hl₁, hc⟩ := hb _ List.mem_cons_self
    obtain ⟨he₁, hname⟩ := Step.renews_handedOut hl₁ hc hg
    obtain ⟨hmem, hgm⟩ := hm.granted hr
    obtain ⟨-, rfl⟩ := h.eq_of_jti hr₁ hmem hl₁ hgm (Option.some.inj (he₁.symm.trans he))
    exact hname.trans (ih fun r' hr' => hb r' (List.mem_cons_of_mem _ hr'))

theorem tokens_eq (h : Traced s src past w) (hr : r.LogsIn s src past l ip userAgent) {rs : List Step} {m : LoggedIn}
    (hm : Lineage s src past l rs m) :
    s.codec.issuePair? (rs.headD r).time ⟨l.id, m.name, l.roleId, m.tokens.jti⟩ = some m.tokens := by
  obtain ⟨hid, hrole⟩ := h.kin hr hm
  obtain ⟨-, hg⟩ := hm.granted hr
  have e := (rs.headD r).effect s src
  rw [← hid, ← hrole, e.jti_of_granted hg]
  exact (e.granted_spec hg).1

theorem record_eq (h : Traced s src past w) (hr : r.LogsIn s src past l ip userAgent) {rs : List Step} {m : LoggedIn}
    (hm : Lineage s src past l rs m) {e : Expiring Session} (he : w.sessions.records.get? m.tokens.jti = some e) :
    e = ⟨⟨m.tokens.jti, l.id, l.roleId, userAgent, ip, (rs.headD r).time⟩,
      (rs.headD r).time + s.codec.refreshTtl⟩ := by
  obtain ⟨r', l', ip', userAgent', rs', m', hr', hm', hj, rfl⟩ := h.kept he
  obtain ⟨rfl, rfl, rfl⟩ := h.lineage_unique hr hr' hm hm' hj.symm
  obtain ⟨c, hc⟩ := hr.call
  obtain ⟨c', hc'⟩ := hr'.call
  cases hc.symm.trans hc'
  rfl

/-- What is kept was not used up, so that no other session came of it. -/
theorem suffix_of_kept (h : Traced s src past w) (hr : r.LogsIn s src past l ip userAgent) {rs rs' : List Step}
    {m m' : LoggedIn} (hm : Lineage s src past l rs m) (hk : (w.sessions.records.get? m.tokens.jti).isSome)
    (hm' : Lineage s src past l rs' m') : rs' <:+ rs := by
  obtain hs | ⟨r', hr', he, -⟩ := h.suffix_or_renewed hr hm hm'
  · exact hs
  · rw [(h.ended hr' he).2] at hk
    cases hk

theorem eq_of_kept (h : Traced s src past w) (hr : r.LogsIn s src past l ip userAgent) {rs rs' : List Step}
    {m m' : LoggedIn} (hm : Lineage s src past l rs m) (hk : (w.sessions.records.get? m.tokens.jti).isSome)
    (hm' : Lineage s src past l rs' m') (hk' : (w.sessions.records.get? m'.tokens.jti).isSome) : m' = m := by
  have hle := (h.suffix_of_kept hr hm hk hm').length_le
  obtain rfl := (h.suffix_of_kept hr hm' hk' hm).eq_of_length_le hle
  exact hm'.unique hm hr

theorem none_kept (h : Traced s src past w) (hr : r.LogsIn s src past l ip userAgent) {rs rs' : List Step}
    {m m' : LoggedIn} {r' : Step} (hm : Lineage s src past l rs m) (hr' : r' ∈ past)
    (he : r'.ended? s src = some m.tokens.jti) (hc : ∀ token, r'.call ≠ .refresh token)
    (hm' : Lineage s src past l rs' m') : w.sessions.records.get? m'.tokens.jti = none := by
  cases hk : w.sessions.records.get? m'.tokens.jti with
  | none => rfl
  | some x =>
    have hk : (w.sessions.records.get? m'.tokens.jti).isSome := Option.isSome_of_eq_some hk
    obtain ⟨t, rfl⟩ := h.suffix_of_kept hr hm' hk hm
    rcases List.eq_nil_or_concat t with rfl | ⟨t, r₂, rfl⟩
    · obtain rfl := hm.unique hm' hr
      rw [(h.ended hr' he).2] at hk
      cases hk
    · have hs : r₂ :: rs <:+ t.concat r₂ ++ rs := ⟨t, by simp⟩
      obtain ⟨m₁, m₂, hm₁, hr₂, he₂, hg₂⟩ := hm'.ended_of_suffix hs
      obtain rfl := hm.unique hm₁ hr
      obtain rfl := h.endedOnce hr' hr₂ he he₂
      obtain ⟨token, hcall⟩ := Step.refreshes he hg₂
      exact absurd hcall (hc token)

theorem staysOneDevice (h : Traced s src past w) (hr : r.LogsIn s src past l ip userAgent) :
    r.StaysOneDevice s src past w l ip userAgent where
  holder := h.kin hr
  tokens := h.tokens_eq hr
  name := h.name_eq hr
  record hm he := h.record_eq hr hm he
  latest := h.suffix_of_kept hr
  single := h.eq_of_kept hr
  none hm hr' he hc _ _ hm' := h.none_kept hr hm hr' he hc hm'

end Traced

/-- However often a login is refreshed it stays one session of one device, and each session that is kept is of one
login. All but the name is read off the session; the name is read off the token that is brought, so that it stays as
long as none is made up by someone else with the secret. -/
theorem stays_one_device {moves : Int → Prop} {t₀ : Int} (hi : ∀ m n, src.ids m = src.ids n → m = n)
    (h : Run s src moves (.fresh t₀) past w) :
    (∀ (r : Step) l ip userAgent, r.LogsIn s src past l ip userAgent →
      r.StaysOneDevice s src past w l ip userAgent) ∧
    ∀ k e, w.sessions.records.get? k = some e →
      ∃ (r : Step) (l : LoggedIn) (ip userAgent : String) (rs : List Step) (m : LoggedIn),
        r.LogsIn s src past l ip userAgent ∧ Lineage s src past l rs m ∧ m.tokens.jti = k ∧
        ∀ (r' : Step) l' ip' userAgent' rs' (m' : LoggedIn), r'.LogsIn s src past l' ip' userAgent' →
          Lineage s src past l' rs' m' → m'.tokens.jti = k → r' = r := by
  have ht := Traced.of_run h hi
  refine ⟨fun r l ip userAgent hr => ht.staysOneDevice hr, fun k e he => ?_⟩
  obtain ⟨r, l, ip, userAgent, rs, m, hr, hm, hj, -⟩ := ht.kept he
  refine ⟨r, l, ip, userAgent, rs, m, hr, hm, hj, fun r' l' ip' userAgent' rs' m' hr' hm' hj' => ?_⟩
  exact (ht.lineage_unique hr' hr hm' hm (hj'.trans hj.symm)).1

namespace Sample

/-- A newcomer who logs in and refreshes once, with the token they were handed. -/
theorem ada_refreshes : ∃ (past : List Step) (w : World Directory) (r r' : Step) (l m : LoggedIn),
    Run service sources (0 ≤ ·) (.fresh 0) past w ∧ r.LogsIn service sources past l "::1" "curl" ∧
    l.name = "Ada" ∧ r' ∈ past ∧ r'.call = .refresh l.tokens.refresh ∧ r'.granted? service sources = some m ∧
    r'.time = 0 ∧ r'.Honoured service sources past m w.now := by
  obtain ⟨a, l, w₁, w₂, w₃, h₁, h₂, h₃, -, hname⟩ := welcomes_ada
  have h₀ : Run service sources (0 ≤ ·) (.fresh 0) [] (.fresh 0) := .start
  have hconfirmed := (h₀.call_of_perform h₁).call_of_perform h₂
  have h := hconfirmed.call_of_perform h₃
  have hnow₂ : w₂.now = 0 := (World.now_of_perform h₂).trans (World.now_of_perform h₁)
  have hnow₃ : w₃.now = 0 := (World.now_of_perform h₃).trans hnow₂
  have hl : Step.granted? service sources ⟨w₂, logsIn⟩ = some l := by
    rw [Step.granted?, Step.answer_of_perform h₃]
    rfl
  have hw := Whitelisted.of_run h sources_distinct fun _ hd => hd
  have unended := (Whitelisted.of_run hconfirmed sources_distinct fun _ hd => hd).unended sources_distinct hl
  have lasts {r : Step} (hr : r.time = 0) : w₃.now < r.time + service.codec.refreshTtl := by
    rw [hnow₃, hr]
    decide
  have inCalendar (t : Int) (ht : Instant.InCalendar t) : Instant.InCalendar (w₃.now + t) := by
    rwa [hnow₃, Int.zero_add]
  obtain ⟨⟨m, hm⟩, -⟩ := hw.accepts sources_distinct (Int.le_of_eq hnow₃.symm) (inCalendar _ (by decide))
    (inCalendar _ (by decide)) List.mem_cons_self hl ⟨lasts hnow₂, unended⟩
  have hg : Step.granted? service sources ⟨w₃, .refresh l.tokens.refresh⟩ = some m := by
    rw [Step.granted?, show Step.answer service sources ⟨w₃, .refresh l.tokens.refresh⟩ = _ from hm]
    rfl
  exact ⟨_, _, ⟨w₂, logsIn⟩, ⟨w₃, _⟩, l, m, h.call _,
    ⟨List.mem_cons_of_mem _ List.mem_cons_self, ⟨_, rfl⟩, hl⟩, hname, List.mem_cons_self, rfl, hg, hnow₃,
    by rw [World.now_perform]; exact lasts hnow₃, hw.unended sources_distinct hg⟩

end Sample

/-- A newcomer who has refreshed is left with the one session, and it is of the device they logged in from. -/
theorem stays_one_device_newcomer : ∃ (past : List Step) (w : World Directory) (l m : LoggedIn),
    Run Sample.service Sample.sources (0 ≤ ·) (.fresh 0) past w ∧ l.name = "Ada" ∧ m.name = "Ada" ∧ m.id = l.id ∧
    w.sessions.records.get? l.tokens.jti = none ∧
    w.sessions.records.get? m.tokens.jti = some ⟨⟨m.tokens.jti, l.id, l.roleId, "curl", "::1", 0⟩, 86400000⟩ := by
  obtain ⟨past, w, r, r', l, m, h, hr, hname, hr', hc, hm, htime, hh⟩ := Sample.ada_refreshes
  have hone := (stays_one_device (fun _ _ => Sample.sources_distinct.injective) h).1 _ _ _ _ hr
  obtain ⟨he, -⟩ := Step.renews_handedOut hr.granted hc hm
  have hlin := Lineage.opened.renewed hr' he hm
  have hw := Whitelisted.of_run h Sample.sources_distinct fun _ hd => hd
  obtain ⟨x, hx, -⟩ := hw.live_of_honoured hr' hm hh
  obtain ⟨e, hrec, -, -⟩ := SessionStore.live?_eq_some_iff.1 hx
  refine ⟨past, w, l, m, h, hname, ?_, (hone.holder hlin).1, ?_, ?_⟩
  · rw [← hname]
    exact hone.name hlin (List.forall_mem_singleton.2 ⟨r, hr.mem, l, hr.granted, hc⟩)
  · cases hk : w.sessions.records.get? l.tokens.jti with
    | none => rfl
    | some x =>
      have hs := hone.latest .opened (Option.isSome_of_eq_some hk) hlin
      cases List.eq_nil_of_suffix_nil hs
  · rw [hrec, hone.record hlin hrec, List.headD_cons, htime]
    rfl

end SignIn
