import SignIn.Proofs.Service.Contest

/-! Of the calls that end one and the same session at most one succeeds, whatever happens between their questions, and
of the sessions that refreshes make on their way only its own is left. -/

namespace SignIn

namespace Contest

variable {s : Service} {src : Sources} {j : String} {v w w' : World Directory} {l : List Stage} {a b : Stage} {i : Nat}

/-! What each question does. -/

/-- What becomes of the sessions where a call passes from `a` to `b`. -/
inductive Change (s : Service) (j : String) (w : World Directory) (a b : Stage) : SessionStore → Prop
  | same : b.kept? = a.kept? → Change s j w a b w.sessions
  | ended : b.kept? = a.kept? → Change s j w a b (w.sessions.remove j)
  | dropped {k} : a.id? = some k → b.kept? = none → Change s j w a b (w.sessions.remove k)
  | made {k} {x : Session} : a.id? = some k → a.kept? = none → b.kept? = some k →
    Change s j w a b ((w.sessions.remove k).enter k ⟨{ x with jti := k }, w.now + s.codec.refreshTtl⟩)

namespace Change

variable {x : SessionStore} {k : String} {e : Expiring Session}

theorem indexed (h : Change s j w a b x) (hw : w.sessions.Indexed) : x.Indexed := by
  cases h with
  | same => exact hw
  | ended => exact hw.remove j
  | dropped => exact hw.remove _
  | made =>
    refine (hw.remove _).enter ?_ rfl
    rw [SessionStore.get?_remove, if_pos rfl]

/-- What is there afterwards is the call's own, or was there, and then the call has not let it go. -/
theorem gained (h : Change s j w a b x) (hk : x.records.get? k = some e) :
    b.kept? = some k ∨ w.sessions.records.get? k = some e ∧ a.kept? ≠ some k := by
  cases h with
  | same hab =>
    by_cases ha : a.kept? = some k
    · exact .inl (hab.trans ha)
    · exact .inr ⟨hk, ha⟩
  | ended hab =>
    rw [SessionStore.get?_remove] at hk
    split at hk
    next => cases hk
    next =>
      by_cases ha : a.kept? = some k
      · exact .inl (hab.trans ha)
      · exact .inr ⟨hk, ha⟩
  | @dropped k' ha =>
    rw [SessionStore.get?_remove] at hk
    split at hk
    next => cases hk
    next hne => exact .inr ⟨hk, fun hak => hne (Option.some.inj ((Stage.id?_of_kept? hak).symm.trans ha))⟩
  | @made k' x' ha han hb =>
    rw [SessionStore.get?_enter, SessionStore.get?_remove] at hk
    split at hk
    next hkk => exact .inl (hkk ▸ hb)
    next => exact .inr ⟨hk, han ▸ (Option.some_ne_none k).symm⟩

theorem lost (h : Change s j w a b x) (hk : w.sessions.records.get? k = some e) (hj : k ≠ j) (ha : a.id? ≠ some k) :
    x.records.get? k = some e := by
  cases h with
  | same => exact hk
  | ended => rwa [SessionStore.get?_remove, if_neg hj]
  | @dropped k' hi => rwa [SessionStore.get?_remove, if_neg fun hkk : k = k' => ha (hkk ▸ hi)]
  | @made k' x' hi =>
    have hne : k ≠ k' := fun hkk => ha (hkk ▸ hi)
    rwa [SessionStore.get?_enter, if_neg hne, SessionStore.get?_remove, if_neg hne]

/-- A session that a call keeps is left where it was, or has just been made. -/
theorem kept (h : Change s j w a b x) (hb : b.kept? = some k) (hj : k ≠ j) :
    a.kept? = some k ∧ x.records.get? k = w.sessions.records.get? k ∨
      ∃ e, x.records.get? k = some e ∧ e.expiresAt = w.now + s.codec.refreshTtl := by
  cases h with
  | same hab => exact .inl ⟨hab.symm.trans hb, rfl⟩
  | ended hab => exact .inl ⟨hab.symm.trans hb, by rw [SessionStore.get?_remove, if_neg hj]⟩
  | dropped _ hn =>
    rw [hn] at hb
    cases hb
  | made _ _ hk =>
    obtain rfl := Option.some.inj (hk.symm.trans hb)
    exact .inr ⟨_, by rw [SessionStore.get?_enter, if_pos rfl], rfl⟩

end Change

namespace Goes

variable {q : Query}

theorem sessions_delete (src : Sources) (w : World Directory) (k : String) :
    (World.answer src (.sessions (.delete k)) w).2.sessions = w.sessions.remove k :=
  congrArg Prod.snd (SessionStore.delete_eq w.sessions w.now k)

theorem change (h : Goes s src j w a q b) : Change s j w a b (World.answer src q w).2.sessions := by
  have hc (k : String) (x : Session) : (World.answer src (.sessions (.create k x s.codec.refreshTtl)) w).2.sessions =
    (w.sessions.create w.now k x s.codec.refreshTtl).2 := rfl
  cases h with
  | look hq =>
    rw [World.sessions_answer_of_looks hq]
    exact .same rfl
  | refuse => exact .same rfl
  | mint => exact .same rfl
  | late => exact .same rfl
  | full hk hn =>
    rw [hc, SessionStore.create_eq_none _ _ hk hn]
    exact .dropped rfl rfl
  | make hk ht =>
    rw [hc, SessionStore.create_eq _ _ hk ht]
    exact .made rfl rfl rfl
  | miss =>
    rw [sessions_delete]
    exact .ended rfl
  | take =>
    rw [sessions_delete]
    exact .ended rfl
  | lose =>
    rw [sessions_delete]
    exact .ended rfl
  | win =>
    rw [sessions_delete]
    exact .ended rfl
  | withdraw =>
    rw [sessions_delete]
    exact .dropped rfl rfl

/-- An id is kept, or has just been minted. -/
theorem id? (h : Goes s src j w a q b) {k : String} (hk : b.id? = some k) :
    a.id? = some k ∨ k = src.ids w.ids ∧ w.ids < (World.answer src q w).2.ids := by
  cases h with
  | look => exact .inl hk
  | mint => exact .inr ⟨(Option.some.inj hk).symm, Nat.lt_succ_self _⟩
  | make => exact .inl hk
  | lose => exact .inl hk
  | win => exact .inl hk
  | _ => cases hk

/-- Who wins has found the session `j`, and it is gone. -/
theorem won (h : Goes s src j w a q b) (hb : b.isWon) :
    b = a ∨ (∃ e, w.sessions.records.get? j = some e) ∧ (World.answer src q w).2.sessions.records.get? j = none := by
  have gone (hl : (w.sessions.live? w.now j).isSome) : (∃ e, w.sessions.records.get? j = some e) ∧
      (World.answer src (.sessions (.delete j)) w).2.sessions.records.get? j = none := by
    obtain ⟨x, hx⟩ := Option.isSome_iff_exists.1 hl
    obtain ⟨e, he, -⟩ := SessionStore.live?_eq_some_iff.1 hx
    refine ⟨⟨e, he⟩, ?_⟩
    rw [sessions_delete, SessionStore.get?_remove, if_pos rfl]
  cases h with
  | look => exact .inl rfl
  | take hl => exact .inr (gone hl)
  | win hl => exact .inr (gone hl)
  | _ => cases hb

theorem refused {token : String} (h : Goes s src j w a q b) (hb : b = .refused token) :
    a = b ∨ ∀ c, s.codec.verify w.now .refresh token ≠ .ok c := by
  cases h with
  | look => exact .inl rfl
  | refuse hv =>
    cases hb
    exact .inr hv
  | _ => cases hb

theorem stuck (h : Goes s src j w a q b) (hb : b = .stuck) : a = b ∨ ¬s.codec.Lasts w.now := by
  cases h with
  | look => exact .inl rfl
  | late hl => exact .inr hl
  | full _ hn => exact .inr fun hl => hn hl.2
  | _ => cases hb

end Goes

def AtMostOne (P : Stage → Prop) (l : List Stage) : Prop :=
  ∀ ⦃i i' : Nat⦄ ⦃a a' : Stage⦄, l[i]? = some a → l[i']? = some a' → P a → P a' → i = i'

/-- The calls in their stages, and the sessions between them. -/
structure Inv (s : Service) (src : Sources) (j : String) (v w : World Directory) (l : List Stage) : Prop where
  indexed : w.sessions.Indexed
  time : v.now ≤ w.now
  ids_le : v.ids ≤ w.ids
  minted : ∀ {i : Nat} {a : Stage} {k}, l[i]? = some a → a.id? = some k → ∃ n, v.ids ≤ n ∧ n < w.ids ∧ src.ids n = k
  distinct : ∀ k, AtMostOne (·.id? = some k) l
  /-- what is there is from before, or some call keeps it -/
  records : ∀ {k e}, w.sessions.records.get? k = some e →
    v.sessions.records.get? k = some e ∨ ∃ (i : Nat) (a : Stage), l[i]? = some a ∧ a.kept? = some k
  kept : ∀ {i : Nat} {a : Stage} {k}, l[i]? = some a → a.kept? = some k → w.now < v.now + s.codec.refreshTtl →
    ∃ e, w.sessions.records.get? k = some e ∧ v.now + s.codec.refreshTtl ≤ e.expiresAt
  ended : ∀ {i : Nat} {a : Stage}, l[i]? = some a → a.isWon → w.sessions.records.get? j = none
  one : AtMostOne (·.isWon) l
  refused : ∀ {i : Nat} {token}, l[i]? = some (.refused token) → ∀ c, s.codec.verify w.now .refresh token ≠ .ok c
  stuck : ∀ {i : Nat}, l[i]? = some .stuck → ∃ t, v.now ≤ t ∧ t ≤ w.now ∧ ¬s.codec.Lasts t

theorem getElem?_set_cases {l : List Stage} {i i' : Nat} {a b : Stage} (h : (l.set i b)[i']? = some a) :
    i' = i ∧ a = b ∨ i' ≠ i ∧ l[i']? = some a := by
  rw [List.getElem?_set] at h
  split at h
  next hi =>
    split at h
    next => exact .inl ⟨hi.symm, (Option.some.inj h).symm⟩
    next => cases h
  next hi => exact .inr ⟨Ne.symm hi, h⟩

theorem AtMostOne.set {P : Stage → Prop} (h : AtMostOne P l)
    (hb : P b → ∀ {i' : Nat} {a' : Stage}, i' ≠ i → l[i']? = some a' → ¬P a') : AtMostOne P (l.set i b) := by
  intro i₁ i₂ a₁ a₂ h₁ h₂ p₁ p₂
  obtain ⟨rfl, rfl⟩ | ⟨hn₁, l₁⟩ := getElem?_set_cases h₁
  · obtain ⟨rfl, -⟩ | ⟨hn₂, l₂⟩ := getElem?_set_cases h₂
    · rfl
    · exact absurd p₂ (hb p₁ hn₂ l₂)
  · obtain ⟨rfl, rfl⟩ | ⟨-, l₂⟩ := getElem?_set_cases h₂
    · exact absurd p₁ (hb p₂ hn₁ l₁)
    · exact h l₁ l₂ p₁ p₂

namespace Inv

theorem ne (h : Inv s src j v w l) (hv : Ready src j v) (ha : l[i]? = some a) {k : String} (hk : a.id? = some k) :
    k ≠ j := by
  obtain ⟨n, hn, -, rfl⟩ := h.minted ha hk
  exact hv.unminted n hn

theorem known (h : Inv s src j v w l) (hv : Ready src j v) (e : Expiring Session)
    (he : w.sessions.records.get? j = some e) : v.sessions.records.get? j = some e := by
  obtain hold | ⟨i, a, ha, hk⟩ := h.records he
  · exact hold
  · exact absurd rfl (h.ne hv ha (Stage.id?_of_kept? hk))

section Passing

variable {q : Query} (h : Inv s src j v w l) (ha : l[i]? = some a) (hg : Goes s src j w a q b)
include h ha hg

theorem minted_set {i' : Nat} {a' : Stage} {k : String} (hi' : (l.set i b)[i']? = some a') (hk : a'.id? = some k) :
    ∃ n, v.ids ≤ n ∧ n < (World.answer src q w).2.ids ∧ src.ids n = k := by
  have later {a : Stage} {i : Nat} (ha : l[i]? = some a) (hk : a.id? = some k) :
      ∃ n, v.ids ≤ n ∧ n < (World.answer src q w).2.ids ∧ src.ids n = k := by
    obtain ⟨n, hn, hlt, hid⟩ := h.minted ha hk
    exact ⟨n, hn, Nat.lt_of_lt_of_le hlt (World.ids_le_answer src q w), hid⟩
  obtain ⟨rfl, rfl⟩ | ⟨-, hi'⟩ := getElem?_set_cases hi'
  · obtain hk | ⟨rfl, hlt⟩ := hg.id? hk
    · exact later ha hk
    · exact ⟨w.ids, h.ids_le, hlt, rfl⟩
  · exact later hi' hk

/-- An id that has just been minted is nobody else's. -/
theorem distinct_set (hs : src.Distinct) (k : String) : AtMostOne (·.id? = some k) (l.set i b) := by
  refine (h.distinct k).set fun hb i' a' hne ha' hk => ?_
  obtain hak | ⟨rfl, -⟩ := hg.id? hb
  · exact hne (h.distinct k ha' ha hk hak)
  · obtain ⟨n, -, hn, hid⟩ := h.minted ha' hk
    exact Nat.ne_of_lt hn (hs.injective hid)

theorem records_set {k : String} {e : Expiring Session}
    (he : (World.answer src q w).2.sessions.records.get? k = some e) :
    v.sessions.records.get? k = some e ∨ ∃ (i' : Nat) (a' : Stage), (l.set i b)[i']? = some a' ∧ a'.kept? = some k := by
  obtain hb | ⟨he, hak⟩ := hg.change.gained he
  · obtain ⟨hi, -⟩ := List.getElem?_eq_some_iff.1 ha
    exact .inr ⟨i, b, List.getElem?_set_self hi, hb⟩
  · obtain hold | ⟨i', a', ha', hk⟩ := h.records he
    · exact .inl hold
    · have hne : i ≠ i' := by
        rintro rfl
        obtain rfl := Option.some.inj (ha.symm.trans ha')
        exact hak hk
      exact .inr ⟨i', a', by rwa [List.getElem?_set_ne hne], hk⟩

theorem kept_ne (hv : Ready src j v) {k : String} (hk : b.kept? = some k) : k ≠ j := by
  obtain hak | ⟨rfl, -⟩ := hg.id? (Stage.id?_of_kept? hk)
  · exact h.ne hv ha hak
  · exact hv.unminted _ h.ids_le

/-- A call lets go of no session but its own. -/
theorem kept_set (hv : Ready src j v) {i' : Nat} {a' : Stage} {k : String} (hi' : (l.set i b)[i']? = some a')
    (hk : a'.kept? = some k) (ht : w.now < v.now + s.codec.refreshTtl) :
    ∃ e, (World.answer src q w).2.sessions.records.get? k = some e ∧ v.now + s.codec.refreshTtl ≤ e.expiresAt := by
  obtain ⟨rfl, rfl⟩ | ⟨hi, hi'⟩ := getElem?_set_cases hi'
  · obtain ⟨hak, he⟩ | ⟨e, he, hx⟩ := hg.change.kept hk (h.kept_ne ha hg hv hk)
    · rw [he]
      exact h.kept ha hak ht
    · have := h.time
      exact ⟨e, he, by omega⟩
  · have hik := Stage.id?_of_kept? hk
    obtain ⟨e, he, hx⟩ := h.kept hi' hk ht
    exact ⟨e, hg.change.lost he (h.ne hv hi' hik) fun hak => hi (h.distinct k hi' ha hik hak), hx⟩

theorem ended_set (hv : Ready src j v) {i' : Nat} {a' : Stage} (hi' : (l.set i b)[i']? = some a') (hwon : a'.isWon) :
    (World.answer src q w).2.sessions.records.get? j = none := by
  have still (hn : w.sessions.records.get? j = none) : (World.answer src q w).2.sessions.records.get? j = none := by
    cases he : (World.answer src q w).2.sessions.records.get? j with
    | none => rfl
    | some e =>
      obtain hb | ⟨he, -⟩ := hg.change.gained he
      · exact absurd rfl (h.kept_ne ha hg hv hb)
      · rw [hn] at he
        cases he
  obtain ⟨rfl, rfl⟩ | ⟨-, hi'⟩ := getElem?_set_cases hi'
  · obtain rfl | ⟨-, hn⟩ := hg.won hwon
    · exact still (h.ended ha hwon)
    · exact hn
  · exact still (h.ended hi' hwon)

/-- Where somebody has won there is no session left to be won. -/
theorem one_set : AtMostOne (·.isWon) (l.set i b) := by
  refine h.one.set fun hb i' a' hne ha' hwon => ?_
  obtain rfl | ⟨⟨e, he⟩, -⟩ := hg.won hb
  · exact hne (h.one ha' ha hwon hb)
  · rw [h.ended ha' hwon] at he
    cases he

theorem goOn (hs : src.Distinct) (hv : Ready src j v) : Inv s src j v (World.answer src q w).2 (l.set i b) := by
  have hnow := World.now_answer src q w
  exact {
    indexed := hg.change.indexed h.indexed
    time := hnow ▸ h.time
    ids_le := Nat.le_trans h.ids_le (World.ids_le_answer src q w)
    minted := h.minted_set ha hg
    distinct := h.distinct_set ha hg hs
    records := h.records_set ha hg
    kept := fun hi' hk ht => h.kept_set ha hg hv hi' hk (hnow ▸ ht)
    ended := h.ended_set ha hg hv
    one := h.one_set ha hg
    refused := by
      intro i' token hi'
      rw [hnow]
      obtain ⟨rfl, hb⟩ | ⟨-, hi'⟩ := getElem?_set_cases hi'
      · obtain rfl | hn := hg.refused hb.symm
        · exact h.refused (ha.trans (congrArg some hb.symm))
        · exact hn
      · exact h.refused hi'
    stuck := by
      intro i' hi'
      rw [hnow]
      obtain ⟨rfl, hb⟩ | ⟨-, hi'⟩ := getElem?_set_cases hi'
      · obtain rfl | hn := hg.stuck hb.symm
        · exact h.stuck (ha.trans (congrArg some hb.symm))
        · exact ⟨w.now, h.time, Int.le_refl _, hn⟩
      · exact h.stuck hi' }

end Passing

/-- Sessions may be lost from elsewhere once they have expired, and no others. -/
theorem thin (h : Inv s src j v w l) (hnow : w'.now = w.now) (hids : w'.ids = w.ids) (hx : w'.sessions.Indexed)
    (hold : ∀ {k e}, w'.sessions.records.get? k = some e → w.sessions.records.get? k = some e)
    (hlive : ∀ {k e}, w.sessions.records.get? k = some e → w.now < e.expiresAt →
      w'.sessions.records.get? k = some e) : Inv s src j v w' l where
  indexed := hx
  time := hnow ▸ h.time
  ids_le := hids ▸ h.ids_le
  minted ha hk := hids ▸ h.minted ha hk
  distinct := h.distinct
  records he := h.records (hold he)
  kept := by
    intro i a k ha hk ht
    rw [hnow] at ht
    obtain ⟨e, he, hle⟩ := h.kept ha hk ht
    exact ⟨e, hlive he (by omega), hle⟩
  ended := by
    intro i a ha hwon
    cases he : w'.sessions.records.get? j with
    | none => rfl
    | some e => exact absurd (hold he) (h.ended ha hwon ▸ (Option.some_ne_none e).symm)
  one := h.one
  refused ha := hnow ▸ h.refused ha
  stuck ha := hnow ▸ h.stuck ha

theorem ask (h : Inv s src j v w l) {q : Query} (hq : q.tends) : Inv s src j v (World.answer src q w).2 l := by
  have hnow := World.now_answer src q w
  cases q with
  | sessions c =>
    cases c with
    | purge =>
      refine h.thin hnow rfl (h.indexed.purge w.now) ?_ ?_
      · exact fun he => ((SessionStore.get?_purge h.indexed).1 he).1
      · exact fun he ht => (SessionStore.get?_purge h.indexed).2 ⟨he, ht⟩
    | list user =>
      refine h.thin hnow rfl (h.indexed.list w.now user) ?_ ?_
      · exact fun he => ((SessionStore.get?_list h.indexed).1 he).1
      · exact fun he ht => (SessionStore.get?_list h.indexed).2 ⟨he, fun _ => ht⟩
    | _ => cases hq
  | codes c => exact h.thin hnow rfl h.indexed id fun he _ => he
  | accounts c => exact h.thin hnow rfl h.indexed id fun he _ => he
  | log x => exact h.thin hnow rfl h.indexed id fun he _ => he
  | _ => cases hq

theorem wait (h : Inv s src j v w l) {d : Int} (hd : 0 ≤ d) : Inv s src j v { w with now := w.now + d } l where
  indexed := h.indexed
  time := by
    have := h.time
    dsimp only
    omega
  ids_le := h.ids_le
  minted := h.minted
  distinct := h.distinct
  records := h.records
  kept ha hk ht := h.kept ha hk (by dsimp only at ht; omega)
  ended := h.ended
  one := h.one
  refused ha c hc := h.refused ha c (Token.verify_earlier (by dsimp only; omega) hc)
  stuck ha := by
    obtain ⟨t, h₁, h₂, hn⟩ := h.stuck ha
    exact ⟨t, h₁, by dsimp only; omega, hn⟩

theorem start (hv : Ready src j v) (calls : List Call) : Inv s src j v v (calls.map fun _ => .idle) := by
  have idle {i : Nat} {a : Stage} (ha : (calls.map fun _ => Stage.idle)[i]? = some a) : a = .idle := by
    rw [List.getElem?_map, Option.map_eq_some_iff] at ha
    obtain ⟨-, -, ha⟩ := ha
    exact ha.symm
  exact {
    indexed := hv.indexed
    time := Int.le_refl _
    ids_le := Nat.le_refl _
    minted := by
      intro i a k ha hk
      rw [idle ha] at hk
      cases hk
    distinct := by
      intro k i i' a a' ha _ hk
      rw [idle ha] at hk
      cases hk
    records := .inl
    kept := by
      intro i a k ha hk
      rw [idle ha] at hk
      cases hk
    ended := by
      intro i a ha hwon
      rw [idle ha] at hwon
      cases hwon
    one := by
      intro i i' a a' ha _ hwon
      rw [idle ha] at hwon
      cases hwon
    refused := fun ha => by cases idle ha
    stuck := fun ha => by cases idle ha }

theorem guards (hs : src.Distinct) (hv : Ready src j v) :
    (protocol s src j v).Guards src (fun q => q.tends) (Inv s src j v) where
  known h := h.known hv
  goOn h ha hg := h.goOn ha hg hs hv
  ask h hq := h.ask hq
  wait h hd := h.wait hd

end Inv

end Contest

def Pending.granted? (p : Pending) : Option LoggedIn := p.call.granted? p.answer?

/-- What has become of calls that end the session `j` of the deployment `v`. -/
structure Traffic.Settles (s : Service) (j : String) (v : World Directory) (t : Traffic) : Prop where
  one : ∀ {i i' : Nat} {p p' : Pending}, t.calls[i]? = some p → t.calls[i']? = some p' → p.succeeded → p'.succeeded →
    i = i'
  others : ∀ {p e}, p ∈ t.calls → p.answer? = some (.error e) → p.call.Loses s v j t.world.now e
  /-- who gets no answer has run out of calendar -/
  halted : ∀ {p}, p ∈ t.calls → p.rest.finished → p.answer? = none →
    ∃ now, v.now ≤ now ∧ now ≤ t.world.now ∧ ¬s.codec.Lasts now
  ended : ∀ {p}, p ∈ t.calls → p.succeeded → t.world.sessions.records.get? j = none
  added : (∀ p ∈ t.calls, p.rest.finished) → ∀ {k e}, t.world.sessions.records.get? k = some e →
    v.sessions.records.get? k = some e ∨ ∃ p ∈ t.calls, ∃ g, p.granted? = some g ∧ g.tokens.jti = k
  kept : ∀ {p g}, p ∈ t.calls → p.granted? = some g → t.world.now < v.now + s.codec.refreshTtl →
    (t.world.sessions.live? t.world.now g.tokens.jti).isSome

namespace Contest

section Settling

variable {s : Service} {src : Sources} {j : String} {v : World Directory} {t : Traffic} {l : List Stage}
  (h : t.Obeys (protocol s src j v) src (Outcome v j) (Inv s src j v) l)
include h

/-- Who has succeeded has won, with the session of the tokens that it hands out. -/
theorem won_of_ok {i : Nat} {p : Pending} {x : p.call.Answer} (hp : t.calls[i]? = some p)
    (hx : p.answer? = some (.ok x)) : l[i]? = some (.won ((p.call.loggedIn? x).map (·.tokens.jti))) := by
  obtain ⟨a, ha, ho⟩ := h.outcome hp (Program.finished_of_result? hx)
  rw [hx] at ho
  rw [ha, ho.of_ok]

/-- What is left of a session that was made is the winner's. -/
theorem granted_of_kept {i : Nat} {a : Stage} {k : String} (hall : ∀ p ∈ t.calls, p.rest.finished) (ha : l[i]? = some a)
    (hk : a.kept? = some k) : ∃ p ∈ t.calls, ∃ g, p.granted? = some g ∧ g.tokens.jti = k := by
  have hi : i < t.calls.length := h.length_eq ▸ (List.getElem?_eq_some_iff.1 ha).1
  have hp : t.calls[i]? = some t.calls[i] := List.getElem?_eq_getElem hi
  have hmem := List.mem_of_getElem? hp
  obtain ⟨a', ha', ho⟩ := h.outcome hp (hall _ hmem)
  obtain rfl := Option.some.inj (ha.symm.trans ha')
  cases a with
  | won o =>
    obtain ⟨x, hx, hg⟩ := ho
    obtain ⟨g, hg, hk⟩ := Option.map_eq_some_iff.1 (hg.trans hk)
    exact ⟨_, hmem, g, Call.succeeded?_eq_some_iff.2 ⟨x, hx, hg⟩, hk⟩
  | made => cases ho
  | beaten => cases ho
  | _ => cases hk

theorem settles : t.Settles s j v where
  one := by
    intro i i' p p' hi hi' hp hp'
    obtain ⟨x, hx⟩ := Pending.succeeded_iff.1 hp
    obtain ⟨x', hx'⟩ := Pending.succeeded_iff.1 hp'
    exact h.holds.one (won_of_ok h hi hx) (won_of_ok h hi' hx') rfl rfl
  others := by
    intro p e hp he
    obtain ⟨i, hi⟩ := List.getElem?_of_mem hp
    obtain ⟨a, ha, ho⟩ := h.outcome hi (Program.finished_of_result? he)
    rw [he] at ho
    exact ho.loses fun token htoken => h.holds.refused (htoken ▸ ha)
  halted := by
    intro p hp hf hn
    obtain ⟨i, hi⟩ := List.getElem?_of_mem hp
    obtain ⟨a, ha, ho⟩ := h.outcome hi hf
    rw [hn] at ho
    exact h.holds.stuck (ho.of_none ▸ ha)
  ended := by
    intro p hp hok
    obtain ⟨i, hi⟩ := List.getElem?_of_mem hp
    obtain ⟨x, hx⟩ := Pending.succeeded_iff.1 hok
    exact h.holds.ended (won_of_ok h hi hx) rfl
  added := by
    intro hall k e he
    obtain hold | ⟨i, a, ha, hk⟩ := h.holds.records he
    · exact .inl hold
    · exact .inr (granted_of_kept h hall ha hk)
  kept := by
    intro p g hp hg hnow
    obtain ⟨i, hi⟩ := List.getElem?_of_mem hp
    obtain ⟨x, hx, hg⟩ := Call.succeeded?_eq_some_iff.1 hg
    have ha := won_of_ok h hi hx
    rw [hg] at ha
    obtain ⟨e, he, hle⟩ := h.holds.kept ha rfl hnow
    exact Option.isSome_of_eq_some (SessionStore.live?_eq_some_iff.2 ⟨e, he, by omega, rfl⟩)

end Settling

/-- Calls that are made to end one session, in whatever order their questions are answered, among sweeps and listings
and while the clock runs. -/
theorem has_one_winner {s : Service} {src : Sources} {j : String} {v : World Directory} (hs : src.Distinct)
    (hv : Ready src j v) {calls : List Call} (hc : ∀ c ∈ calls, c.Contends s j) {turns : List Turn}
    (ht : ∀ turn ∈ turns, turn.Allowed fun q => q.tends) :
    ((Traffic.start s v calls).after src turns).Settles s j v := by
  have h : (Traffic.start s v calls).Obeys (protocol s src j v) src (Outcome v j) (Inv s src j v)
      (calls.map fun _ => .idle) := .start (.start hv calls) fun c hcc => keeps hs hv (hc c hcc)
  obtain ⟨l, h⟩ := h.after (Inv.guards hs hv) ht
  exact settles h

end Contest

namespace Sample

/-- A deployment that keeps one session of Ada's, for a second. -/
def rivalled : World Directory where
  now := 0
  accounts := {}
  sessions := ({} : SessionStore).enter "s" ⟨⟨"s", 1, 3, "curl", "::1", 0⟩, 1000⟩

def token : String := Token.sign "secret" (Token.issued 0 86400000 "home" .refresh ⟨1, "Ada", 3, "s"⟩)

def rivals : List Call := [.revoke 1 "s", .revoke 2 "s", .revoke 1 "s", .refresh token]

/-- Those who revoke look the session up in turn, and then the last of them goes on first. -/
def turns : List Turn := [.goOn 0, .goOn 1, .goOn 2, .wait 5, .goOn 2, .ask (.sessions .purge), .goOn 0, .goOn 2]

theorem has_one_winner_rivalled :
    let t := (Traffic.start service rivalled rivals).after sources turns
    t.calls.map Pending.succeeded = [false, false, true, false] ∧ t.Settles service "s" rivalled := by
  have hv : Contest.Ready sources "s" rivalled := {
    indexed := SessionStore.Indexed.empty.enter rfl rfl
    unminted := by
      intro n _ hid
      have := congrArg String.toList hid
      simp [sources, List.replicate_succ] at this
    role := by
      rintro e ⟨⟩
      rfl }
  have hi : service.codec.issue? 0 .refresh ⟨1, "Ada", 3, "s"⟩ = some token :=
    Token.issue?_eq_some_iff.2 ⟨by decide, rfl⟩
  refine ⟨by decide +kernel, Contest.has_one_winner sources_distinct hv (fun c hc => ?_) ?_⟩
  · simp only [rivals, List.mem_cons, List.not_mem_nil, or_false] at hc
    obtain rfl | rfl | rfl | rfl := hc
    · exact .revoke 1
    · exact .revoke 2
    · exact .revoke 1
    · exact (Call.contends_of_issue hi).1
  · simp [turns, Turn.Allowed, Query.tends]

end Sample
end SignIn
