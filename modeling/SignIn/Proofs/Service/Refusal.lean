import SignIn.Proofs.Service.Honoured

/-! A call that does not succeed leaves accounts, sessions, codes and outbox as they were. -/

namespace SignIn

variable {s : Service} {src : Sources} {moves : Int → Prop} {t : Int} {past : List Step} {w : World Directory}

/-- All sessions that are kept, live or not, have ids that were minted here. -/
def SessionStore.Minted (src : Sources) (n : Nat) (x : SessionStore) : Prop :=
  ∀ k e, x.records.get? k = some e → src.Minted n k

namespace SessionStore.Minted

variable {n m : Nat} {x : SessionStore}

theorem of_le (h : x.Minted src n) (hm : n ≤ m) : x.Minted src m := fun k e he => (h k e he).of_le hm

/-- The next id is nobody's. -/
theorem get?_next (h : x.Minted src n) (hi : ∀ i j, src.ids i = src.ids j → i = j) :
    x.records.get? (src.ids n) = none := by
  cases hk : x.records.get? (src.ids n) with
  | none => rfl
  | some e => exact absurd rfl ((h _ e hk).ne (hi _ _))

theorem remove (h : x.Minted src n) (jti : String) : (x.remove jti).Minted src n := by
  intro k e he
  rw [get?_remove] at he
  split at he
  next => cases he
  next => exact h k e he

theorem opened {w : Holdings} (h : w.sessions.Minted src w.ids) (x : Session) (ttl : Int) :
    (w.opened src x ttl).sessions.Minted src (w.ids + 1) := by
  intro k e he
  rw [Holdings.opened, get?_enter] at he
  split at he
  next hk => exact ⟨w.ids, by omega, hk.symm⟩
  next => exact (h.remove _).of_le (Nat.le_succ _) k e he

section Next

variable {w : Holdings} (hm : w.sessions.Minted src w.ids) (hi : ∀ i j, src.ids i = src.ids j → i = j)
include hm hi

theorem live?_opened {k : String} {x : Session} (hx : w.sessions.live? w.now k = some x) (y : Session) (ttl : Int) :
    (w.opened src y ttl).sessions.live? w.now k = some x := by
  obtain ⟨e, he, -⟩ := live?_eq_some_iff.1 hx
  have hk : k ≠ src.ids w.ids := fun h => (hm k e he).ne (hi _ _) h.symm
  rw [Holdings.opened, live?_enter, if_neg hk, live?_remove, if_neg hk, hx]

/-- To open a session and to take it back is to do nothing. -/
theorem remove_opened (hs : w.sessions.Indexed) (y : Session) (ttl : Int) :
    (w.opened src y ttl).sessions.remove (src.ids w.ids) = w.sessions := by
  have hj := hm.get?_next hi
  rw [Holdings.opened, remove_eq_self hj, hs.remove_enter hj]

end Next

end SessionStore.Minted

namespace Effect

variable {w w' : Holdings} {c : Call} {answer : Option (Except ServiceError c.Answer)}

theorem minted (h : Effect s src w c answer w') (hs : w.sessions.Indexed) (hm : w.sessions.Minted src w.ids) :
    w'.sessions.Minted src w'.ids := by
  cases h with
  | loggedIn => exact hm.opened _ _
  | refreshed => exact (hm.opened _ _).remove _
  | collided => exact (hm.opened _ _).remove _
  | loggedOut => exact hm.remove _
  | revoked => exact hm.remove _
  | listed => exact fun k e he => hm k e ((SessionStore.get?_list hs).1 he).1
  | halted i => exact hm.of_le (Nat.le_add_right _ i)
  | refused e i => exact hm.of_le (Nat.le_add_right _ i)
  | _ => exact hm

/-- Of the two calls that can fail late, a registration never does, and a refresh only where an id is minted twice. -/
theorem unchanged (h : Effect s src w c answer w') (hn : ∀ a, answer ≠ some (.ok a)) (hd : w.accounts.Lawful)
    (ho : w.codes.Owned w.accounts) (hm : w.sessions.Minted src w.ids) (hi : ∀ m n, src.ids m = src.ids n → m = n)
    (hc : Instant.InCalendar (w.now + s.codeTtl)) :
    w'.accounts = w.accounts ∧ w'.sessions = w.sessions ∧ w'.codes = w.codes ∧ w'.outbox = w.outbox := by
  cases h with
  | halted => exact ⟨rfl, rfl, rfl, rfl⟩
  | refused => exact ⟨rfl, rfl, rfl, rfl⟩
  | stranded _ hf ha hu => exact absurd hu (ha.not_unsent hf hd ho hc _)
  | @collided token c old hp hj =>
    obtain ⟨-, hl, -⟩ := Service.live?_of_present hp
    obtain ⟨e, he, -⟩ := SessionStore.live?_eq_some_iff.1 hl
    exact absurd hj ((hm _ e he).ne (hi _ _))
  | _ => exact absurd rfl (hn _)

end Effect

theorem Run.minted (h : Run s src moves (.fresh t) past w) : w.sessions.Minted src w.ids := by
  induction h with
  | start => exact fun _ _ h => nomatch h
  | call c h ih => exact (Step.effect s src ⟨_, c⟩).minted h.indexed ih
  | sweep h ih =>
    rw [World.sessions_swept, World.ids_swept]
    exact fun k e he => ih k e ((SessionStore.get?_purge h.indexed).1 he).1
  | settle _ ih => rwa [World.sessions_settled, World.ids_settled]
  | move _ _ ih => exact ih

theorem Form.admissible_of_create {f : Form} {d d' : Directory} {now : Int} {hash : String} {u : User}
    (h : d.create now (f.newUser hash s.defaultRole) = (some (.ok u), d')) :
    f.Admissible s d ∧ u = (f.newUser hash s.defaultRole).toUser d.nextId now ∧
      d' = d.grown now (f.newUser hash s.defaultRole) := by
  obtain ⟨e, hc⟩ | hc | ⟨hc, hr, hn, hu⟩ := Directory.create_cases d now (f.newUser hash s.defaultRole)
  · rw [hc] at h
    cases h
  · rw [hc] at h
    cases h
  · rw [hc] at h
    cases h
    exact ⟨⟨hr, hn, fun id v c a hv ha => hu id v c a hv ((f.address_newUser _ _ c).trans ha)⟩, rfl, rfl⟩

/-- Whatever was done before, a call that does not succeed changes nothing. A registration that has made the user
succeeds: the role is there, the user is found, and no code is out for them. -/
theorem performs_all_or_nothing (h : Run s src moves (.fresh t) past w) (hi : ∀ m n, src.ids m = src.ids n → m = n)
    (hc : Instant.InCalendar (w.now + s.codeTtl)) :
    (∀ c : Call, (∀ a, (w.perform s src c).1 ≠ some (.ok a)) →
      (w.perform s src c).2.accounts = w.accounts ∧ (w.perform s src c).2.sessions = w.sessions ∧
      (w.perform s src c).2.codes = w.codes ∧ (w.perform s src c).2.outbox = w.outbox) ∧
    ∀ (r : Registration) f u d, r.form = .ok f →
      w.accounts.create w.now (f.newUser (Password.hash (src.salts w.salts) r.password) s.defaultRole) =
        (some (.ok u), d) →
      (Directory.role? u.roleId).isSome ∧ d.byAddress? f.channel f.address = some u ∧
      w.codes.live? w.now f.channel f.address = none ∧
      ∃ a, (w.perform s src (.register r)).1 = some (.ok a) ∧ a.id = u.id ∧
        (w.perform s src (.register r)).2.accounts = d := by
  constructor
  · intro c hn
    have e := Step.effect s src ⟨w, c⟩
    exact e.unchanged hn h.lawful h.owned h.minted hi hc
  · intro r f u d hf hu
    obtain ⟨ha, rfl, rfl⟩ := Form.admissible_of_create hu
    obtain ⟨role, p, hrole, hp, hx⟩ :=
      Holdings.exec_register_of_admissible (w := w.holdings) hf ha h.lawful h.owned hc src
    have hfill := Registration.filled?_of_form hf (Registration.gives_of_form hf).address
    have hpa : p.address = f.address := Option.some.inj (hp.filled.symm.trans hfill)
    obtain ⟨w₁, hw₁, h₁⟩ := World.perform_of_exec (c := .register r) hx
    refine ⟨ha.role, ha.byAddress?_enrolled (w := w.holdings) hf h.lawful src r.password, hpa ▸ hp.free, ?_⟩
    rw [hw₁]
    exact ⟨_, rfl, rfl, congrArg Holdings.accounts h₁⟩

/-- A newcomer is taken in, and when they try again that changes nothing. -/
theorem performs_all_or_nothing_newcomer :
    ∃ a w, (World.fresh 0).perform Sample.service Sample.sources Sample.registers = (some (.ok a), w) ∧
      (w.perform Sample.service Sample.sources Sample.registers).1 =
        some (.error (.duplicateAddress "users_email_key")) ∧
      (w.perform Sample.service Sample.sources Sample.registers).2.accounts = w.accounts ∧
      (w.perform Sample.service Sample.sources Sample.registers).2.outbox = w.outbox := by
  have h₀ : Run Sample.service Sample.sources (0 ≤ ·) (.fresh 0) [] (.fresh 0) := .start
  have hi : ∀ m n, Sample.sources.ids m = Sample.sources.ids n → m = n := fun _ _ => Sample.sources_distinct.injective
  have hf : Sample.ada.form = .ok ⟨"Ada", some "ada@home", none, .email, "ada@home"⟩ := rfl
  obtain ⟨-, hnew⟩ := performs_all_or_nothing h₀ hi (by decide)
  obtain ⟨-, -, -, a, ha, -, hd⟩ := hnew Sample.ada _ _ _ hf rfl
  obtain ⟨w, hw⟩ :
      ∃ w, (World.fresh 0).perform Sample.service Sample.sources Sample.registers = (some (.ok a), w) :=
    ⟨_, Prod.ext ha rfl⟩
  rw [hw] at hd
  have taken (hash : String) :
      w.holdings.accounts.create w.holdings.now
        (Form.newUser ⟨"Ada", some "ada@home", none, .email, "ada@home"⟩ hash Sample.service.defaultRole) =
      (some (.error (.uniqueViolation "users_email_key")), w.accounts) := by
    rw [show w.holdings.accounts = w.accounts from rfl, show w.accounts = _ from hd]
    rfl
  have hrefused : (w.perform Sample.service Sample.sources Sample.registers).1 =
      some (.error (.duplicateAddress "users_email_key")) := by
    have hx : Holdings.exec Sample.sources (Sample.service.register Sample.ada) w.holdings = _ :=
      Holdings.exec_register _ _
    rw [hf] at hx
    dsimp only at hx
    rw [Holdings.exec_enroll, taken] at hx
    rw [World.perform_fst]
    exact congrArg Prod.fst hx
  have hc : Instant.InCalendar (w.now + Sample.service.codeTtl) := by
    rw [World.now_of_perform hw]
    decide
  obtain ⟨hsame, -⟩ := performs_all_or_nothing (h₀.call_of_perform hw) hi hc
  obtain ⟨hd', -, -, ho⟩ := hsame Sample.registers (by simp [hrefused])
  exact ⟨a, w, hw, hrefused, hd', ho⟩

end SignIn
