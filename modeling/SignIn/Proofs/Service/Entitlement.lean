import SignIn.Proofs.Service.Codes
import SignIn.Proofs.Service.Lineage

/-! What a call that succeeds changes: the one account, session or code that it is about, and nothing else. -/

namespace SignIn

/-- What is kept, but for the index of the sessions. -/
structure Stores where
  accounts : Directory
  sessions : SessionMap
  codes : PasscodeStore
  outbox : List Message

def Holdings.stores (w : Holdings) : Stores := ⟨w.accounts, w.sessions.bare, w.codes, w.outbox⟩

namespace Directory

/-- Of all users this one alone has changed. -/
structure Edits (d : Directory) (u u' : User) (d' : Directory) : Prop where
  before : d.users.get? u.id = some u
  after : d'.users.get? u.id = some u'
  others : ∀ id, id ≠ u.id → d'.users.get? id = d.users.get? id
  nextId : d'.nextId = d.nextId

variable {d : Directory}

theorem Lawful.edits (hd : d.Lawful) {u : User} (hu : d.users.get? u.id = some u) (f : User → User) :
    d.Edits u (f u) (d.change u.id f).2 where
  before := hu
  after := by rw [get?_change hd, if_pos rfl, hu]; rfl
  others id hid := by rw [get?_change hd, if_neg hid]
  nextId := nextId_change _ _ _

end Directory

/-- What a call may make of what is kept when it succeeds. -/
def Call.Entitled (s : Service) (w w' : Holdings) : (c : Call) → c.Answer → Prop
  | .register r, a => ∃ channel address u p, Call.recipient? (.register r) = some (channel, address) ∧
    u.id = a.id ∧ u.name = a.name ∧ u.address channel = some address ∧ (∀ c, u.verifiedAt c = none) ∧
    w.accounts.users.get? a.id = none ∧ w.codes.live? w.now channel address = none ∧ p.userId = a.id ∧
    w'.stores = { w.stores with
      accounts := ⟨w.accounts.users.insert a.id u, w.accounts.nextId + 1⟩
      codes := w.codes.insert (channel, address) ⟨p, w.now + s.codeTtl⟩
      outbox := w.outbox ++ [.ofCode s.name channel address p.code] }
  | .login c ip userAgent, l => ∃ channel address u, c.address? = some (channel, address) ∧
    w.accounts.OwnedBy channel address u ∧ Password.verify c.password u.passwordHash = true ∧
    (u.verifiedAt channel).isSome ∧ l.id = u.id ∧ w.sessions.records.get? l.tokens.jti = none ∧
    w'.stores = { w.stores with
      sessions := w.sessions.bare.insert l.tokens.jti
        ⟨⟨l.tokens.jti, u.id, u.roleId, userAgent, ip, w.now⟩, w.now + s.codec.refreshTtl⟩ }
  | .refresh token, l => ∃ c e, s.codec.verify w.now .refresh token = .ok c ∧
    w.sessions.records.get? c.jti = some e ∧ e.value.userId = c.userId ∧ l.id = c.userId ∧
    w.sessions.records.get? l.tokens.jti = none ∧
    w'.stores = { w.stores with
      sessions := (w.sessions.bare.insert l.tokens.jti
        ⟨{ e.value with jti := l.tokens.jti, createdAt := w.now }, w.now + s.codec.refreshTtl⟩).erase c.jti }
  | .logout token, _ => ∃ c e, s.codec.verify w.now .refresh token = .ok c ∧
    w.sessions.records.get? c.jti = some e ∧ e.value.userId = c.userId ∧
    w'.stores = { w.stores with sessions := w.sessions.bare.erase c.jti }
  | .sessions user, _ =>
    w'.stores = { w.stores with
      sessions := w.sessions.bare.filter fun e => e.2.value.userId = user → w.now < e.2.expiresAt }
  | .revoke caller jti, _ => ∃ e, w.sessions.records.get? jti = some e ∧ e.value.userId = caller ∧
    w'.stores = { w.stores with sessions := w.sessions.bare.erase jti }
  | .sendCode channel address, _ => ∃ u p, w.accounts.OwnedBy channel (Text.trim address) u ∧ p.userId = u.id ∧
    w.codes.live? w.now channel (Text.trim address) = none ∧
    w'.stores = { w.stores with
      codes := w.codes.insert (channel, Text.trim address) ⟨p, w.now + s.codeTtl⟩
      outbox := w.outbox ++ [.ofCode s.name channel (Text.trim address) p.code] }
  | .confirm channel address _, _ => ∃ u d, w.accounts.OwnedBy channel (Text.trim address) u ∧
    w.accounts.Edits u (u.verify channel w.now) d ∧
    w'.stores = { w.stores with accounts := d, codes := w.codes.erase (channel, Text.trim address) }
  | .changePassword user _ new, _ => ∃ u hash d, u.id = user ∧ Password.verify new hash = true ∧
    w.accounts.Edits u { u with passwordHash := hash, updatedAt := w.now } d ∧
    w'.stores = { w.stores with accounts := d }
  | .authenticate _, _ => w'.stores = w.stores
  | .profile _, _ => w'.stores = w.stores

variable {s : Service} {src : Sources} {moves : Int → Prop} {t : Int} {past : List Step} {w : World Directory}

theorem Holdings.Sends.stores_sent {w : Holdings} {channel : Channel} {address : String} {p : Passcode}
    (hp : w.Sends s src channel address p) :
    (w.sent s p).stores = { w.stores with
      codes := w.codes.insert (channel, Text.trim address) ⟨p, w.now + s.codeTtl⟩
      outbox := w.outbox ++ [.ofCode s.name channel (Text.trim address) p.code] } := by
  rw [stores, sent, hp.channel_eq, hp.expiresAt, (Text.filled?_eq_some_iff.1 hp.filled).1]
  rfl

theorem Effect.entitled {w w' : Holdings} {c : Call} {a : c.Answer} (h : Effect s src w c (some (.ok a)) w')
    (hd : w.accounts.Lawful) (hs : w.sessions.Indexed) (hm : w.sessions.Minted src w.ids)
    (hi : ∀ m n, src.ids m = src.ids n → m = n) : c.Entitled s w w' a := by
  have fresh {l : LoggedIn} (hl : l.tokens.jti = src.ids w.ids) : w.sessions.records.get? l.tokens.jti = none := by
    rw [hl]
    exact hm.get?_next hi
  have trimmed {a b : String} (h : Text.filled? a = some b) : Text.trim a = b := (Text.filled?_eq_some_iff.1 h).1.symm
  have e := h
  cases h with
  | stranded _ _ _ _ hn => exact absurd rfl (hn a)
  | @registered r f role p hf ha hr hp =>
    have g := Registration.gives_of_form hf
    have htrim : Text.trim f.address = p.address := trimmed hp.filled
    have hpa : p.address = f.address :=
      htrim.symm.trans (trimmed (Registration.filled?_of_form hf g.address))
    obtain ⟨u, hu, hid⟩ := hp.owner
    rw [hpa, ha.byAddress?_enrolled hf hd] at hu
    cases hu
    refine ⟨f.channel, f.address, w.newcomer src s f r.password, p, Call.recipient?_of_form hf, rfl, rfl, ?_, ?_,
      hd.get?_nextId, hpa ▸ hp.free, hid, ?_⟩
    · rw [Holdings.address_newcomer, g.address]
    · exact fun c => by cases c <;> rfl
    · rw [hp.stores_sent, htrim, hpa]
      rfl
  | sent hp =>
    obtain ⟨u, hu, hid⟩ := hp.owner
    have hfree := hp.free
    rw [← trimmed hp.filled] at hu hfree
    exact ⟨u, _, hd.ownedBy hu, hid, hfree, hp.stores_sent⟩
  | confirmed ha hc hp he hu =>
    obtain rfl := trimmed ha
    obtain ⟨hid, -⟩ := (Directory.byAddress?_eq_some_iff hd).1 hu
    exact ⟨_, _, hd.ownedBy hu, hd.edits hid (·.verify _ w.now), rfl⟩
  | @passwordChanged user old new hu hl =>
    obtain ⟨u, hu⟩ := Option.isSome_iff_exists.1 hu
    obtain rfl := hd.named hu
    have edits := hd.edits hu fun u =>
      { u with passwordHash := Password.hash (src.salts w.salts) new, updatedAt := w.now }
    exact ⟨u, _, _, rfl, Password.verify_hash _ _, edits, rfl⟩
  | loggedIn ha ht hj =>
    obtain ⟨channel, address, hca, hu, hp, hv, -⟩ := Credentials.admitted_eq_ok_iff.1 ha
    refine ⟨channel, address, _, hca, hd.ownedBy hu, hp, hv, rfl, fresh (e.jti_of_granted rfl), ?_⟩
    rw [Holdings.stores, SessionStore.bare, e.records_of_login]
    rfl
  | refreshed hp hr ht hj =>
    obtain ⟨c, old, hp, hid, -, -, hrec⟩ := e.records_of_refresh
    obtain ⟨hv, hl, hu⟩ := Service.live?_of_present hp
    obtain ⟨x, hx, -, rfl⟩ := SessionStore.live?_eq_some_iff.1 hl
    refine ⟨c, x, hv, hx, hu, hid, fresh (e.jti_of_granted rfl), ?_⟩
    rw [Holdings.stores, SessionStore.bare, hrec]
    rfl
  | loggedOut hp =>
    obtain ⟨hv, hl, hu⟩ := Service.live?_of_present hp
    obtain ⟨e, he, -, rfl⟩ := SessionStore.live?_eq_some_iff.1 hl
    refine ⟨_, e, hv, he, hu, ?_⟩
    rw [Holdings.stores, SessionStore.bare, SessionStore.records_remove]
    rfl
  | revoked hx hu =>
    obtain ⟨e, he, -, rfl⟩ := SessionStore.live?_eq_some_iff.1 hx
    refine ⟨e, he, hu, ?_⟩
    rw [Holdings.stores, SessionStore.bare, SessionStore.records_remove]
    rfl
  | listed hu =>
    rw [Call.Entitled, Holdings.stores, SessionStore.bare, SessionStore.records_list hs]
    rfl
  | authenticated => rfl
  | profiled => rfl

/-- Whatever was done before, a call that succeeds changes what it is about and nothing else, and nobody's name,
address, role or number ever changes. -/
theorem touches_only_its_own (h : Run s src moves (.fresh t) past w) (hi : ∀ m n, src.ids m = src.ids n → m = n) :
    (∀ (c : Call) (a : c.Answer) w', w.perform s src c = (some (.ok a), w') →
      c.Entitled s w.holdings w'.holdings a) ∧
    ∀ past' w', Run s src moves w past' w' → w.accounts.Retains w'.accounts := by
  refine ⟨fun c a w' hp => ?_, fun past' w' h' => h'.retains_accounts h.lawful⟩
  have e := Step.effect s src ⟨w, c⟩
  rw [Step.answer_of_perform hp, Step.after, hp] at e
  exact e.entitled h.lawful h.indexed h.minted hi

/-- When a newcomer confirms their address, that is marked, the code is gone, and all else is as it was. -/
theorem touches_only_its_own_newcomer : ∃ (w w' : World Directory) (u : User),
    w.perform Sample.service Sample.sources Sample.confirms = (some (.ok ()), w') ∧
    w.accounts.users.get? u.id = some u ∧ u.emailVerifiedAt = none ∧
    w'.accounts.users.get? u.id = some { u with emailVerifiedAt := some w.now, updatedAt := w.now } ∧
    w'.codes.get? (.email, "ada@home") = none ∧ w'.sessions.records = w.sessions.records ∧ w'.outbox = w.outbox := by
  obtain ⟨a, l, w₁, w₂, w₃, h₁, h₂, -⟩ := Sample.welcomes_ada
  have h₀ : Run Sample.service Sample.sources (0 ≤ ·) (.fresh 0) [] (.fresh 0) := .start
  have hi : ∀ m n, Sample.sources.ids m = Sample.sources.ids n → m = n := fun _ _ => Sample.sources_distinct.injective
  obtain ⟨channel, address, v, p, hrec, -, -, hva, hver, -, -, -, hstores⟩ :=
    (touches_only_its_own h₀ hi).1 _ _ _ h₁
  cases hrec
  obtain ⟨u, d, howned, hedits, hstores'⟩ := (touches_only_its_own (h₀.call_of_perform h₁) hi).1 _ _ _ h₂
  have hv : w₁.accounts.users.get? a.id = some v := by
    rw [show w₁.accounts = _ from congrArg Stores.accounts hstores]
    exact Table.get?_insert_self _ _ _
  obtain ⟨-, rfl⟩ := (howned a.id v).1 ⟨hv, hva⟩
  refine ⟨w₁, w₂, v, h₂, hedits.before, hver .email, ?_, ?_, congrArg Stores.sessions hstores',
    congrArg Stores.outbox hstores'⟩
  · rw [show w₂.accounts = _ from congrArg Stores.accounts hstores']
    exact hedits.after
  · rw [show w₂.codes = _ from congrArg Stores.codes hstores']
    exact Table.get?_erase_self _ _

end SignIn
