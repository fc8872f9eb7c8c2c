import SignIn.Proofs.Service.Newcomer
import SignIn.Proofs.Service.Whitelist

/-! What a refresh token that was handed out is good for, and until when. -/

namespace SignIn

variable {s : Service} {src : Sources} {past : List Step} {w : World Directory} {r : Step} {l : LoggedIn}

/-- What a refresh token that was handed out is worth: to the end of its last second it leads to its session. -/
theorem Step.present_of_granted (hl : r.granted? s src = some l) {w : Holdings} (h0 : 0 ≤ w.now) :
    s.present w l.tokens.refresh =
      if Instant.seconds w.now ≤ Instant.seconds (r.time + s.codec.refreshTtl) then
        match (w.sessions.live? w.now l.tokens.jti).filter (·.userId = l.id) with
        | none => .error .sessionNotFound
        | some x => .ok (Token.issued r.time s.codec.refreshTtl s.codec.issuer .refresh
            ⟨l.id, l.name, l.roleId, l.tokens.jti⟩, x)
      else .error .authenticationFailed := by
  have e := r.effect s src
  obtain ⟨-, hr, -⟩ := TokenCodec.issuePair?_eq_some_iff.1 (e.granted_spec hl).1
  rw [← e.jti_of_granted hl] at hr
  by_cases hs : Instant.seconds w.now ≤ Instant.seconds (r.time + s.codec.refreshTtl)
  · have hv : s.codec.verify w.now .refresh l.tokens.refresh = .ok _ := Token.verify_of_le hr h0 hs
    rw [Service.present, hv, if_pos hs]
    rfl
  · obtain ⟨x, hv⟩ := Token.verify_of_lt hr (Int.not_le.1 hs)
    have hv : s.codec.verify w.now .refresh l.tokens.refresh = .error x := hv
    rw [Service.present, hv, if_neg hs]

theorem Holdings.refresh_of_present {w : Holdings} {token : String} {c : Claims} {x : Session}
    (hp : s.present w token = .ok (c, x)) (hr : (Directory.role? x.roleId).isSome)
    (ha : Instant.InCalendar (w.now + s.codec.accessTtl)) (hc : Instant.InCalendar (w.now + s.codec.refreshTtl))
    (hj : src.ids w.ids ≠ "") (hf : src.ids w.ids ≠ c.jti) : ∃ a, (exec src (s.refresh token) w).1 = some (.ok a) := by
  obtain ⟨role, hr⟩ := Option.isSome_iff_exists.1 hr
  have ht : (s.codec.issuePair? w.now ⟨c.userId, c.userName, x.roleId, src.ids w.ids⟩).isSome :=
    TokenCodec.isSome_issuePair?_iff.2 ⟨ha, hc⟩
  obtain ⟨tokens, ht⟩ := Option.isSome_iff_exists.1 ht
  rw [exec_refresh, hp]
  dsimp only
  rw [hr, ht]
  dsimp only
  rw [if_neg hj, if_neg fun h => hf h.1]
  exact ⟨_, rfl⟩

instance {t : Int} : Decidable (r.Honoured s src past l t) := inferInstanceAs (Decidable (_ ∧ _))

namespace Whitelisted

theorem live_of_honoured (h : Whitelisted s src past w) (hr : r ∈ past) (hl : r.granted? s src = some l)
    (hh : r.Honoured s src past l w.now) :
    ∃ x, w.sessions.live? w.now l.tokens.jti = some x ∧ x.userId = l.id ∧ x.roleId = l.roleId :=
  SessionStore.holder?_eq_some_iff.1 ((h.held hr hl (Int.le_refl _)).2 ⟨rfl, hh⟩)

theorem live?_eq_none (h : Whitelisted s src past w) (hr : r ∈ past) (hl : r.granted? s src = some l)
    (hh : ¬r.Honoured s src past l w.now) : w.sessions.live? w.now l.tokens.jti = none := by
  cases hx : w.sessions.live? w.now l.tokens.jti with
  | none => rfl
  | some x => exact absurd ((h.held hr hl (Int.le_refl _)).1 (SessionStore.holder?_of_live? hx)).2 hh

end Whitelisted

theorem World.perform_sessions {id : UserId} {u : User} (hu : w.accounts.users.get? id = some u) :
    (w.perform s src (.sessions id)).1 = some (.ok ((w.sessions.list w.now id).1.map (Holdings.view u))) := by
  rw [World.perform_fst]
  show (Holdings.exec src (Service.sessionsOf id) w.holdings).1 = _
  rw [Holdings.exec_sessionsOf, show w.holdings.accounts.users.get? id = some u from hu]
  rfl

theorem Whitelisted.lists {moves : Int → Prop} {t : Int} (hw : Whitelisted s src past w)
    (h : Run s src moves (.fresh t) past w) (hr : r ∈ past) (hl : r.granted? s src = some l) :
    ∃ views, (w.perform s src (.sessions l.id)).1 = some (.ok views) ∧
      (l.tokens.jti ∈ views.map (·.jti) ↔ r.Honoured s src past l w.now) ∧
      ((views.map (·.jti)).count l.tokens.jti = 1 ↔ r.Honoured s src past l w.now) := by
  obtain ⟨u, hu⟩ := Option.isSome_iff_exists.1 (hw.known hr hl)
  have hjti : ((w.sessions.list w.now l.id).1.map (Holdings.view u)).map (·.jti) =
      (w.sessions.list w.now l.id).1.map (·.jti) := List.map_map
  have hmem : l.tokens.jti ∈ (w.sessions.list w.now l.id).1.map (·.jti) ↔ r.Honoured s src past l w.now := by
    rw [List.mem_map]
    constructor
    · rintro ⟨x, hx, hj⟩
      obtain ⟨k, hk, -⟩ := (SessionStore.mem_list_iff h.indexed).1 hx
      rw [h.indexed.jti_eq_of_live? hk] at hj
      exact Decidable.byContradiction fun hn => by
        rw [hj, hw.live?_eq_none hr hl hn] at hk
        cases hk
    · intro hh
      obtain ⟨x, hx, hid, -⟩ := hw.live_of_honoured hr hl hh
      exact ⟨x, (SessionStore.mem_list_iff h.indexed).2 ⟨_, hx, hid⟩, h.indexed.jti_eq_of_live? hx⟩
  refine ⟨_, World.perform_sessions hu, ?_⟩
  rw [hjti]
  refine ⟨hmem, ?_⟩
  rw [(SessionStore.nodup_list h.indexed).count, ← hmem]
  split
  next hm => exact iff_of_true rfl hm
  next hm => exact iff_of_false nofun hm

/-- The call is refused, and nothing that is kept changes. -/
def World.Refuses (s : Service) (src : Sources) (w : World Directory) (c : Call) (why : ServiceError) : Prop :=
  (w.perform s src c).1 = some (.error why) ∧ (w.perform s src c).2.holdings = w.holdings

theorem World.refuses_of_exec {c : Call} {why : ServiceError}
    (h : Holdings.exec src (c.operation s) w.holdings = (some (.error why), w.holdings)) : w.Refuses s src c why := by
  rw [Refuses, perform_fst, holdings_perform, h]
  exact ⟨rfl, rfl⟩

theorem World.Refuses.not_ok {c : Call} {why : ServiceError} (h : w.Refuses s src c why) (a : c.Answer) :
    (w.perform s src c).1 ≠ some (.ok a) := by
  rw [h.1]
  exact nofun

namespace Whitelisted

theorem accepts (hw : Whitelisted s src past w) (hsrc : src.Distinct) (h0 : 0 ≤ w.now)
    (ha : Instant.InCalendar (w.now + s.codec.accessTtl)) (hc : Instant.InCalendar (w.now + s.codec.refreshTtl))
    (hr : r ∈ past) (hl : r.granted? s src = some l) (hh : r.Honoured s src past l w.now) :
    (∃ a, (w.perform s src (.refresh l.tokens.refresh)).1 = some (.ok a)) ∧
      (w.perform s src (.logout l.tokens.refresh)).1 = some (.ok ()) ∧
      (w.perform s src (.revoke l.id l.tokens.jti)).1 = some (.ok ()) := by
  obtain ⟨x, hx, hu, hrole⟩ := hw.live_of_honoured hr hl hh
  have hx : w.holdings.sessions.live? w.holdings.now l.tokens.jti = some x := hx
  have hle : Instant.seconds w.holdings.now ≤ Instant.seconds (r.time + s.codec.refreshTtl) := by
    have hlt : w.holdings.now < r.time + s.codec.refreshTtl := hh.1
    unfold Instant.seconds
    omega
  have hp := r.present_of_granted hl (w := w.holdings) h0
  rw [if_pos hle, hx, Option.filter_some, if_pos (decide_eq_true hu)] at hp
  simp only [World.perform_fst, Call.operation]
  refine ⟨Holdings.refresh_of_present hp ?_ ha hc (hsrc.nonempty _) ?_, ?_, ?_⟩
  · rw [hrole]
    exact ((r.effect s src).granted_spec hl).2.1
  · exact (hw.granted hr hl).ne hsrc.injective
  · rw [Holdings.exec_logout, hp]
  · rw [Holdings.exec_revoke, hx]
    dsimp only
    rw [if_pos hu]

theorem refuses (hw : Whitelisted s src past w) (h0 : 0 ≤ w.now) (hr : r ∈ past) (hl : r.granted? s src = some l)
    (hh : ¬r.Honoured s src past l w.now) :
    let why := if Instant.seconds w.now ≤ Instant.seconds (r.time + s.codec.refreshTtl)
      then ServiceError.sessionNotFound else .authenticationFailed
    w.Refuses s src (.refresh l.tokens.refresh) why ∧ w.Refuses s src (.logout l.tokens.refresh) why ∧
      w.Refuses s src (.revoke l.id l.tokens.jti) .sessionNotFound := by
  have hx : w.holdings.sessions.live? w.holdings.now l.tokens.jti = none := hw.live?_eq_none hr hl hh
  have hp : s.present w.holdings l.tokens.refresh =
      .error (if Instant.seconds w.now ≤ Instant.seconds (r.time + s.codec.refreshTtl)
        then .sessionNotFound else .authenticationFailed) := by
    rw [r.present_of_granted hl (w := w.holdings) h0, hx]
    split
    next hle => exact congrArg Except.error (if_pos hle).symm
    next hle => exact congrArg Except.error (if_neg hle).symm
  refine ⟨World.refuses_of_exec ?_, World.refuses_of_exec ?_, World.refuses_of_exec ?_⟩
  · rw [Call.operation, Holdings.exec_refresh, hp]
  · rw [Call.operation, Holdings.exec_logout, hp]
  · rw [Call.operation, Holdings.exec_revoke, hx]

end Whitelisted

/-- A refresh token is honoured until its session ends, is used up or runs out: until then it can be refreshed, logged
out and revoked, and is listed, once. From then on it is refused, and tells for the rest of its last second that its
session is gone. -/
theorem honours_refresh_tokens {t₀ : Int} (hsrc : src.Distinct) (h : Run s src (0 ≤ ·) (.fresh t₀) past w) (h0 : 0 ≤ t₀)
    (ha : Instant.InCalendar (w.now + s.codec.accessTtl)) (hc : Instant.InCalendar (w.now + s.codec.refreshTtl))
    (hr : r ∈ past) (hl : r.granted? s src = some l) :
    ((∃ a, (w.perform s src (.refresh l.tokens.refresh)).1 = some (.ok a)) ↔ r.Honoured s src past l w.now) ∧
    ((w.perform s src (.logout l.tokens.refresh)).1 = some (.ok ()) ↔ r.Honoured s src past l w.now) ∧
    ((w.perform s src (.revoke l.id l.tokens.jti)).1 = some (.ok ()) ↔ r.Honoured s src past l w.now) ∧
    (∃ views, (w.perform s src (.sessions l.id)).1 = some (.ok views) ∧
      (l.tokens.jti ∈ views.map (·.jti) ↔ r.Honoured s src past l w.now) ∧
      ((views.map (·.jti)).count l.tokens.jti = 1 ↔ r.Honoured s src past l w.now)) ∧
    (¬r.Honoured s src past l w.now →
      let why := if Instant.seconds w.now ≤ Instant.seconds (r.time + s.codec.refreshTtl)
        then ServiceError.sessionNotFound else .authenticationFailed
      w.Refuses s src (.refresh l.tokens.refresh) why ∧ w.Refuses s src (.logout l.tokens.refresh) why) := by
  have hw := Whitelisted.of_run h hsrc fun _ hd => hd
  have hnow : 0 ≤ w.now := Int.le_trans h0 (h.start_le fun _ hd => hd)
  have hlist := hw.lists h hr hl
  by_cases hh : r.Honoured s src past l w.now
  · obtain ⟨hrefresh, hlogout, hrevoke⟩ := hw.accepts hsrc hnow ha hc hr hl hh
    exact ⟨iff_of_true hrefresh hh, iff_of_true hlogout hh, iff_of_true hrevoke hh, hlist, fun hn => absurd hh hn⟩
  · obtain ⟨hrefresh, hlogout, hrevoke⟩ := hw.refuses hnow hr hl hh
    exact ⟨iff_of_false (fun ⟨a, ha⟩ => hrefresh.not_ok a ha) hh, iff_of_false (hlogout.not_ok ()) hh,
      iff_of_false (hrevoke.not_ok ()) hh, hlist, fun _ => ⟨hrefresh, hlogout⟩⟩

theorem Sample.sources_distinct : sources.Distinct where
  nonempty := ids_ne_empty
  injective h := by
    have hl := congrArg String.length h
    simpa [sources] using hl

/-- What a newcomer is handed can be refreshed at once, and not at the end of its lifetime. -/
theorem honours_refresh_tokens_newcomer :
    ∃ past w token, Run Sample.service Sample.sources (0 ≤ ·) (.fresh 0) past w ∧
      (∃ a, (w.perform Sample.service Sample.sources (.refresh token)).1 = some (.ok a)) ∧
      World.Refuses Sample.service Sample.sources { w with now := w.now + 86400000 } (.refresh token)
        .sessionNotFound ∧
      World.Refuses Sample.service Sample.sources { w with now := w.now + 86401000 } (.refresh token)
        .authenticationFailed := by
  obtain ⟨a, l, w₁, w₂, w₃, h₁, h₂, h₃, -⟩ := Sample.welcomes_ada
  have h₀ : Run Sample.service Sample.sources (0 ≤ ·) (.fresh 0) [] (.fresh 0) := .start
  have h := ((h₀.call_of_perform h₁).call_of_perform h₂).call_of_perform h₃
  have hnow₂ : w₂.now = 0 := (World.now_of_perform h₂).trans (World.now_of_perform h₁)
  have hnow₃ : w₃.now = 0 := (World.now_of_perform h₃).trans hnow₂
  have hgranted : Step.granted? Sample.service Sample.sources
      ⟨w₂, Sample.logsIn⟩ = some l := by
    rw [Step.granted?, Step.answer_of_perform h₃]
    rfl
  have unended : ∀ r ∈ [(⟨w₂, Sample.logsIn⟩ : Step),
      ⟨w₁, Sample.confirms⟩, ⟨.fresh 0, Sample.registers⟩],
      r.ended? Sample.service Sample.sources ≠ some l.tokens.jti := by
    simp only [List.forall_mem_cons, Step.ended?, Step.answer_of_perform h₁, Step.answer_of_perform h₂,
      Step.answer_of_perform h₃]
    exact ⟨nofun, nofun, nofun, nofun⟩
  have inCalendar (t : Int) (h0 : 0 ≤ t) (ht : t ≤ 172801000) : Instant.InCalendar (w₃.now + t) := by
    unfold Instant.InCalendar Instant.earliest Instant.latest
    omega
  have gone (t : Int) (h0 : 86400000 ≤ t) (ht : t ≤ 86401000) :
      World.Refuses Sample.service Sample.sources { w₃ with now := w₃.now + t } (.refresh l.tokens.refresh)
        (if Instant.seconds (w₃.now + t) ≤ Instant.seconds (w₂.now + 86400000) then .sessionNotFound
          else .authenticationFailed) := by
    have hmoved := h.move (d := t) (by omega)
    have hc (d : Int) (hd : 0 ≤ d ∧ d ≤ 86400000) : Instant.InCalendar (w₃.now + t + d) := by
      rw [Int.add_assoc]
      exact inCalendar _ (by omega) (by omega)
    refine ((honours_refresh_tokens Sample.sources_distinct hmoved (by decide) (hc _ (by decide)) (hc _ (by decide))
      List.mem_cons_self hgranted).2.2.2.2 fun hh => ?_).1
    have hlt : w₃.now + t < w₂.now + 86400000 := hh.1
    omega
  refine ⟨_, w₃, l.tokens.refresh, h, ?_, ?_, ?_⟩
  · exact (honours_refresh_tokens Sample.sources_distinct h (by decide) (inCalendar _ (by decide) (by decide))
      (inCalendar _ (by decide) (by decide)) List.mem_cons_self hgranted).1.2
      ⟨by rw [hnow₃, Step.time, hnow₂]; decide, unended⟩
  · have hg := gone 86400000 (by decide) (by decide)
    rwa [hnow₂, hnow₃, if_pos (by decide), ← hnow₃] at hg
  · have hg := gone 86401000 (by decide) (by decide)
    rwa [hnow₂, hnow₃, if_neg (by decide), ← hnow₃] at hg

end SignIn
