import SignIn.Proofs.Service.Chronicle

/-! Who may log in: whoever registered with an address, confirmed it and knows the password chosen last. -/

namespace SignIn

/-- The history vouches for the credentials, as those of who registered so. -/
structure Credentials.Vouched (c : Credentials) (s : Service) (src : Sources) (past : List Step) (e : Enrolment)
    (channel : Channel) (address : String) : Prop where
  used : c.address? = some (channel, address)
  registered : ∃ r ∈ past, r.enrolled? s src = some e
  reached : (e.request.address? channel).bind Text.filled? = some address
  confirmed : ∃ r ∈ past, r.confirmed? s src = some (channel, address)
  password : Password.verify c.password (currentHash s src past e) = true

variable {s : Service} {src : Sources} {past : List Step} {w : World Directory}

theorem Chronicled.vouched_of_admitted (h : Chronicled s src past w.accounts) (hd : w.accounts.Lawful)
    {c : Credentials} {u : User} {role : Role} (ha : c.admitted w.holdings = .ok (u, role)) :
    ∃ e channel address, c.Vouched s src past e channel address := by
  obtain ⟨channel, address, hc, hu, hp, hv, -⟩ := Credentials.admitted_eq_ok_iff.1 ha
  obtain ⟨hu, hua⟩ := (Directory.byAddress?_eq_some_iff hd).1 hu
  obtain ⟨r, hr, e, he, hdesc⟩ := h.described hu
  obtain ⟨a, haa, r', hr', hx⟩ := (hdesc.verified channel).1 hv
  obtain rfl : a = address := Option.some.inj (haa.symm.trans hua)
  exact ⟨e, channel, a, hc, ⟨r, hr, he⟩, (hdesc.address channel).symm.trans hua, ⟨r', hr', hx⟩, hdesc.hash ▸ hp⟩

theorem Chronicled.admitted_of_vouched (h : Chronicled s src past w.accounts) (hd : w.accounts.Lawful)
    {c : Credentials} {e : Enrolment} {channel : Channel} {address : String}
    (hv : c.Vouched s src past e channel address) :
    ∃ u role, c.admitted w.holdings = .ok (u, role) ∧ u.id = e.answer.id ∧ u.name = e.answer.name ∧
      u.roleId = s.defaultRole ∧ role.name = e.answer.roleName := by
  obtain ⟨r, hr, he⟩ := hv.registered
  obtain ⟨u, hu, hdesc⟩ := h.kept hr he
  obtain ⟨role, hrole, hname⟩ := hdesc.role
  have hua : u.address channel = some address := (hdesc.address channel).trans hv.reached
  have hget : w.accounts.users.get? u.id = some u := hdesc.id ▸ hu
  refine ⟨u, role, Credentials.admitted_eq_ok_iff.2 ⟨channel, address, hv.used, ?_, ?_, ?_, ?_⟩, hdesc.id, hdesc.name,
    hdesc.roleId, hname⟩
  · exact (Directory.byAddress?_eq_some_iff hd).2 ⟨hget, hua⟩
  · rw [hdesc.hash]
    exact hv.password
  · exact (hdesc.verified channel).2 ⟨address, hua, hv.confirmed⟩
  · rw [hdesc.roleId]
    exact hrole

theorem Effect.admitted_of_ok {w w' : Holdings} {c : Credentials} {ip userAgent : String} {l : LoggedIn}
    (h : Effect s src w (.login c ip userAgent) (some (.ok l)) w') :
    ∃ u role, c.admitted w = .ok (u, role) ∧ l.id = u.id ∧ l.name = u.name ∧ l.roleId = u.roleId ∧
      l.roleName = role.name := by
  cases h with
  | loggedIn ha => exact ⟨_, _, ha, rfl, rfl, rfl, rfl⟩

/-- Every hash that a history tells of was made from a password that is long enough. -/
theorem exists_currentHash_eq {e : Enrolment} (he : ∃ r ∈ past, r.enrolled? s src = some e) :
    ∃ salt password, Password.minLength ≤ password.length ∧ currentHash s src past e = Password.hash salt password := by
  unfold currentHash
  cases hx : past.findSome? fun r => ((r.rehashed? s src).filter (·.1 = e.answer.id)).map (·.2) with
  | none =>
    obtain ⟨r, -, he⟩ := he
    exact (r.effect s src).hash_of_enrolled he
  | some x =>
    obtain ⟨r, -, hr⟩ := List.exists_of_findSome?_eq_some hx
    obtain ⟨⟨id, y⟩, hy, rfl⟩ := Option.map_eq_some_iff.1 hr
    exact (r.effect s src).hash_of_rehashed (Option.filter_eq_some_iff.1 hy).1

/-- A login succeeds for whoever registered with the address, confirmed it and gives the password chosen last, and for
nobody else. It tells who registered so, and passwords that are too short were never kept. -/
theorem admits_logins {moves : Int → Prop} {t₀ : Int} (hids : ∀ n, src.ids n ≠ "")
    (h : Run s src moves (.fresh t₀) past w) (hpast : ∀ r ∈ past, Instant.InCalendar (r.time + s.codeTtl))
    (ha : Instant.InCalendar (w.now + s.codec.accessTtl)) (hc : Instant.InCalendar (w.now + s.codec.refreshTtl))
    (c : Credentials) (ip userAgent : String) :
    ((∃ l, (w.perform s src (.login c ip userAgent)).1 = some (.ok l)) ↔
      ∃ e channel address, c.Vouched s src past e channel address) ∧
    (∀ l, (w.perform s src (.login c ip userAgent)).1 = some (.ok l) →
      ∀ e channel address, c.Vouched s src past e channel address →
        l.id = e.answer.id ∧ l.name = e.answer.name ∧ l.roleId = s.defaultRole ∧ l.roleName = e.answer.roleName) ∧
    ∀ id u, w.accounts.users.get? id = some u →
      ∃ salt password, Password.minLength ≤ password.length ∧ u.passwordHash = Password.hash salt password := by
  have hw := Chronicled.of_run h hpast
  have admitted {l : LoggedIn} (hl : (w.perform s src (.login c ip userAgent)).1 = some (.ok l)) :
      ∃ u role, c.admitted w.holdings = .ok (u, role) ∧ l.id = u.id ∧ l.name = u.name ∧ l.roleId = u.roleId ∧
        l.roleName = role.name := by
    have e := Step.effect s src ⟨w, .login c ip userAgent⟩
    rw [show Step.answer s src ⟨w, .login c ip userAgent⟩ = some (.ok l) from hl] at e
    exact e.admitted_of_ok
  refine ⟨⟨?_, ?_⟩, ?_, ?_⟩
  · rintro ⟨l, hl⟩
    obtain ⟨u, role, hu, -⟩ := admitted hl
    exact hw.vouched_of_admitted h.lawful hu
  · rintro ⟨e, channel, address, hv⟩
    obtain ⟨u, role, hu, -⟩ := hw.admitted_of_vouched h.lawful hv
    obtain ⟨tokens, ht⟩ := Holdings.login_of_admitted hu ha hc (hids _) ip userAgent
    exact ⟨_, (w.perform_fst s src _).trans ht⟩
  · intro l hl e channel address hv
    obtain ⟨u, role, hu, hid, hname, hrid, hrname⟩ := admitted hl
    obtain ⟨u', role', hu', hid', hname', hrid', hrname'⟩ := hw.admitted_of_vouched h.lawful hv
    cases hu.symm.trans hu'
    exact ⟨hid.trans hid', hname.trans hname', hrid.trans hrid', hrname.trans hrname'⟩
  · intro id u hu
    obtain ⟨r, hr, e, he, hdesc⟩ := hw.described hu
    rw [hdesc.hash]
    exact exists_currentHash_eq ⟨r, hr, he⟩

/-- A newcomer can log in, but not over a channel that was not confirmed. -/
theorem admits_logins_newcomer :
    ∃ past w, Run Sample.service Sample.sources (0 ≤ ·) (.fresh 0) past w ∧
      (∃ l, (w.perform Sample.service Sample.sources (.login ⟨some " ada@home ", none, "countess"⟩ "::1" "curl")).1 =
        some (.ok l)) ∧
      ∀ l, (w.perform Sample.service Sample.sources (.login ⟨none, some "ada@home", "countess"⟩ "::1" "curl")).1 ≠
        some (.ok l) := by
  obtain ⟨a, -, w₁, w₂, -, h₁, h₂, -⟩ := Sample.welcomes_ada
  have h₀ : Run Sample.service Sample.sources (0 ≤ ·) (.fresh 0) [] (.fresh 0) := .start
  have h := (h₀.call_of_perform h₁).call_of_perform h₂
  have hnow₁ : w₁.now = 0 := World.now_of_perform h₁
  have hnow₂ : w₂.now = 0 := (World.now_of_perform h₂).trans hnow₁
  have hpast : ∀ r ∈ [(⟨w₁, Sample.confirms⟩ : Step), ⟨.fresh 0, Sample.registers⟩],
      Instant.InCalendar (r.time + Sample.service.codeTtl) := by
    simp only [List.forall_mem_cons, Step.time, hnow₁]
    decide
  have ha : Instant.InCalendar (w₂.now + Sample.service.codec.accessTtl) := by
    rw [hnow₂]
    decide
  have hc : Instant.InCalendar (w₂.now + Sample.service.codec.refreshTtl) := by
    rw [hnow₂]
    decide
  have henrolled : Step.enrolled? Sample.service Sample.sources ⟨.fresh 0, Sample.registers⟩ =
      some ⟨Sample.ada, a, Password.hash (Sample.sources.salts 0) "countess"⟩ := by
    rw [Step.enrolled?, Step.answer_of_perform h₁]
    rfl
  have hconfirmed : Step.confirmed? Sample.service Sample.sources ⟨w₁, Sample.confirms⟩ =
      some (.email, "ada@home") := by
    rw [Step.confirmed?, Step.answer_of_perform h₂]
    rfl
  have hhash : currentHash Sample.service Sample.sources
      [⟨w₁, Sample.confirms⟩, ⟨.fresh 0, Sample.registers⟩]
      ⟨Sample.ada, a, Password.hash (Sample.sources.salts 0) "countess"⟩ =
        Password.hash (Sample.sources.salts 0) "countess" := by
    simp only [currentHash_cons, Step.rehashed?, Step.answer_of_perform h₁, Step.answer_of_perform h₂]
    rfl
  refine ⟨_, w₂, h, ?_, ?_⟩
  · refine (admits_logins Sample.ids_ne_empty h hpast ha hc _ "::1" "curl").1.2
      ⟨⟨Sample.ada, a, Password.hash (Sample.sources.salts 0) "countess"⟩, .email, "ada@home", ?_⟩
    exact {
      used := rfl
      registered := ⟨_, List.mem_cons_of_mem _ List.mem_cons_self, henrolled⟩
      reached := rfl
      confirmed := ⟨_, List.mem_cons_self, hconfirmed⟩
      password := by
        rw [hhash]
        exact Password.verify_hash _ _ }
  · intro l hl
    obtain ⟨e, channel, address, hv⟩ := (admits_logins Sample.ids_ne_empty h hpast ha hc _ "::1" "curl").1.1 ⟨l, hl⟩
    have hused := hv.used
    cases hused
    obtain ⟨r, hr, hx⟩ := hv.confirmed
    simp only [List.mem_cons, List.not_mem_nil, or_false] at hr
    rcases hr with rfl | rfl
    · rw [hconfirmed] at hx
      cases hx
    · rw [Step.confirmed?, Step.answer_of_perform h₁] at hx
      cases hx

end SignIn
