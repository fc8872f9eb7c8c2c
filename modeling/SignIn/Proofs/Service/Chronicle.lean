import SignIn.Proofs.Service.Codes

/-! What the history of a deployment tells of each user: how they registered, which addresses they confirmed and which
password they chose last. -/

namespace SignIn

/-- A registration that succeeded, and the hash that was kept of its password. -/
structure Enrolment where
  request : Registration
  answer : Registered
  hash : String

namespace Call

def enrolment? (src : Sources) (salts : Nat) : (c : Call) → c.Answer → Option Enrolment
  | .register r, a => some ⟨r, a, Password.hash (src.salts salts) r.password⟩
  | _, _ => none

def enrolled? (src : Sources) (salts : Nat) (c : Call) : Option (Except ServiceError c.Answer) → Option Enrolment :=
  succeeded? (c.enrolment? src salts)

def newHash? (src : Sources) (salts : Nat) : Call → Option (UserId × String)
  | .changePassword user _ new => some (user, Password.hash (src.salts salts) new)
  | _ => none

def rehashed? (src : Sources) (salts : Nat) (c : Call) :
    Option (Except ServiceError c.Answer) → Option (UserId × String) :=
  succeeded? fun _ => c.newHash? src salts

end Call

namespace Step

variable (s : Service) (src : Sources) (r : Step)

def enrolled? : Option Enrolment := r.call.enrolled? src r.before.salts (r.answer s src)

def rehashed? : Option (UserId × String) := r.call.rehashed? src r.before.salts (r.answer s src)

end Step

/-- The hash of the password that a user chose last. -/
def currentHash (s : Service) (src : Sources) (past : List Step) (e : Enrolment) : String :=
  (past.findSome? fun r => ((r.rehashed? s src).filter (·.1 = e.answer.id)).map (·.2)).getD e.hash

/-- What becomes of a user where a hash is replaced and an address is confirmed. -/
structure User.Turns (rehashed : Option (UserId × String)) (confirmed : Option (Channel × String)) (u u' : User) :
    Prop where
  id : u'.id = u.id
  address : ∀ c, u'.address c = u.address c
  name : u'.name = u.name
  roleId : u'.roleId = u.roleId
  hash : u'.passwordHash = ((rehashed.filter (·.1 = u.id)).map (·.2)).getD u.passwordHash
  verified : ∀ c, (u'.verifiedAt c).isSome ↔
    (u.verifiedAt c).isSome ∨ ∃ a, u.address c = some a ∧ confirmed = some (c, a)

namespace User.Turns

theorem refl (u : User) : u.Turns none none u where
  id := rfl
  address _ := rfl
  name := rfl
  roleId := rfl
  hash := rfl
  verified _ := by simp

theorem verify {u : User} {channel : Channel} {a : String} (ha : u.address channel = some a) (now : Int) :
    u.Turns none (some (channel, a)) (u.verify channel now) where
  id := u.id_verify _ _
  address c := u.address_verify _ c _
  name := u.name_verify _ _
  roleId := by cases channel <;> rfl
  hash := by cases channel <;> rfl
  verified c := by
    rw [verifiedAt_verify]
    split
    next hc => simp [hc, ha]
    next hc => simp [Ne.symm hc]

theorem of_verify {u : User} {channel : Channel} {a : String} (ha : u.address channel ≠ some a) :
    u.Turns none (some (channel, a)) u where
  id := rfl
  address _ := rfl
  name := rfl
  roleId := rfl
  hash := rfl
  verified c := by
    refine (or_iff_left ?_).symm
    rintro ⟨b, hb, h⟩
    cases h
    exact ha hb

theorem rehash (u : User) (hash : String) (now : Int) :
    u.Turns (some (u.id, hash)) none { u with passwordHash := hash, updatedAt := now } where
  id := rfl
  address c := by cases c <;> rfl
  name := rfl
  roleId := rfl
  hash := by simp [Option.filter_some]
  verified c := by cases c <;> simp [verifiedAt]

theorem of_rehash {u : User} {id : UserId} (hid : id ≠ u.id) (hash : String) : u.Turns (some (id, hash)) none u where
  id := rfl
  address _ := rfl
  name := rfl
  roleId := rfl
  hash := by simp [Option.filter_some, hid]
  verified _ := by simp

end User.Turns

structure Enrolment.Opens (e : Enrolment) (s : Service) (u : User) : Prop where
  id : u.id = e.answer.id
  address : ∀ c, u.address c = (e.request.address? c).bind Text.filled?
  name : u.name = e.answer.name
  roleId : u.roleId = s.defaultRole
  role : ∃ role, Directory.role? s.defaultRole = some role ∧ role.name = e.answer.roleName
  hash : u.passwordHash = e.hash
  verified : ∀ c, u.verifiedAt c = none

namespace Effect

variable {s : Service} {src : Sources} {w w' : Holdings} {c : Call} {answer : Option (Except ServiceError c.Answer)}

theorem turns (h : Effect s src w c answer w') (hd : w.accounts.Lawful) {id : UserId} {u : User}
    (hu : w.accounts.users.get? id = some u) :
    ∃ u', w'.accounts.users.get? id = some u' ∧ u.Turns (c.rehashed? src w.salts answer) (c.confirmed? answer) u' := by
  have kept {f : Form} {password : String} :
      (w.enrolled src s f password).accounts.users.get? id = some u := by
    rw [Holdings.get?_enrolled, if_neg, hu]
    rintro rfl
    rw [hd.get?_nextId] at hu
    cases hu
  cases h with
  | stranded _ _ _ _ hn =>
    rw [Call.rehashed?, Call.confirmed?, Call.succeeded?_eq_none hn, Call.succeeded?_eq_none hn]
    exact ⟨u, kept, .refl u⟩
  | registered => exact ⟨u, kept, .refl u⟩
  | @confirmed channel address code a _ p v ha _ _ _ hv =>
    obtain ⟨hget, hva⟩ := (Directory.byAddress?_eq_some_iff hd).1 hv
    rw [(Text.filled?_eq_some_iff.1 ha).1] at hva
    rw [Holdings.confirmed, Directory.get?_change hd]
    split
    next hid =>
      obtain rfl : v = u := Option.some.inj (hget.symm.trans (hid ▸ hu))
      exact ⟨_, congrArg _ hget, .verify hva _⟩
    next hid =>
      refine ⟨u, hu, .of_verify fun hua => hid ?_⟩
      have hget' : w.accounts.users.get? u.id = some u := by rwa [hd.named hu]
      rw [← hd.named hu, hd.distinct hget' hget hua hva]
  | @passwordChanged user old new =>
    rw [Holdings.passwordChanged, Directory.get?_change hd]
    split
    next hid =>
      refine ⟨_, congrArg _ (hid ▸ hu), ?_⟩
      rw [← hid, ← hd.named hu]
      exact .rehash u _ _
    next hid => exact ⟨u, hu, .of_rehash (by rw [hd.named hu]; exact Ne.symm hid) _⟩
  | _ => exact ⟨u, hu, .refl u⟩

end Effect

namespace Effect

variable {s : Service} {src : Sources} {w w' : Holdings} {c : Call} {answer : Option (Except ServiceError c.Answer)}

/-- Who is there that was not has registered, under addresses that nobody had. -/
theorem opened (h : Effect s src w c answer w') (hd : w.accounts.Lawful) (ho : w.codes.Owned w.accounts)
    (hc : Instant.InCalendar (w.now + s.codeTtl)) {id : UserId} {u : User} (hn : w.accounts.users.get? id = none)
    (hu : w'.accounts.users.get? id = some u) :
    ∃ e, c.enrolled? src w.salts answer = some e ∧ e.Opens s u ∧
      ∀ v c a, w.accounts.users.get? v.id = some v → u.address c = some a → v.address c ≠ some a := by
  have changed (k : UserId) (f : User → User) : (w.accounts.change k f).2.users.get? id = none := by
    rw [Directory.get?_change hd]
    split
    next hk => rw [← hk, hn]; rfl
    next => exact hn
  cases h with
  -- the one call that leaves a user without telling of it, and it never comes to that
  | stranded d hf ha hx => exact absurd hx (ha.not_unsent hf hd ho hc _)
  | @registered r f role p hf ha hr =>
    have hu : (w.enrolled src s f r.password).accounts.users.get? id = some u := hu
    rw [Holdings.get?_enrolled] at hu
    split at hu
    next =>
      cases hu
      refine ⟨_, rfl, ⟨rfl, fun c => ?_, rfl, rfl, ⟨role, hr, rfl⟩, rfl, fun c => by cases c <;> rfl⟩, ?_⟩
      · rw [Holdings.address_newcomer, (Registration.gives_of_form hf).reached]
      · intro v c a hv hua
        rw [Holdings.address_newcomer] at hua
        exact ha.free _ v c a (Table.mem_of_get?_eq_some hv) hua
    next => rw [hn] at hu; cases hu
  | confirmed => rw [Holdings.confirmed, changed] at hu; cases hu
  | passwordChanged => rw [Holdings.passwordChanged, changed] at hu; cases hu
  | _ => cases hn.symm.trans hu

theorem get?_of_enrolled (h : Effect s src w c answer w') (hd : w.accounts.Lawful) {e : Enrolment}
    (he : c.enrolled? src w.salts answer = some e) :
    w.accounts.users.get? e.answer.id = none ∧ (w'.accounts.users.get? e.answer.id).isSome := by
  cases h with
  | stranded _ _ _ _ hn => cases (Call.succeeded?_eq_none hn _).symm.trans he
  | registered =>
    cases he
    exact ⟨hd.get?_nextId, Option.isSome_of_eq_some ((Holdings.get?_enrolled _ _ _ _ _ _).trans (if_pos rfl))⟩
  | _ => cases he

theorem owner_of_confirmed (h : Effect s src w c answer w') (hd : w.accounts.Lawful) {channel : Channel} {a : String}
    (hc : c.confirmed? answer = some (channel, a)) :
    ∃ u, w.accounts.users.get? u.id = some u ∧ u.address channel = some a := by
  cases h with
  | stranded _ _ _ _ hn => cases (Call.succeeded?_eq_none hn _).symm.trans hc
  | confirmed ha _ _ _ hu =>
    cases hc
    obtain ⟨hu, hua⟩ := (Directory.byAddress?_eq_some_iff hd).1 hu
    exact ⟨_, hu, (Text.filled?_eq_some_iff.1 ha).1 ▸ hua⟩
  | _ => cases hc

theorem user_of_rehashed (h : Effect s src w c answer w') {id : UserId} {hash : String}
    (hr : c.rehashed? src w.salts answer = some (id, hash)) : (w.accounts.users.get? id).isSome := by
  cases h with
  | stranded _ _ _ _ hn => cases (Call.succeeded?_eq_none hn _).symm.trans hr
  | passwordChanged hu =>
    cases hr
    exact hu
  | _ => cases hr

theorem hash_of_enrolled (h : Effect s src w c answer w') {e : Enrolment}
    (he : c.enrolled? src w.salts answer = some e) :
    ∃ salt password, Password.minLength ≤ password.length ∧ e.hash = Password.hash salt password := by
  cases h with
  | stranded _ _ _ _ hn => cases (Call.succeeded?_eq_none hn _).symm.trans he
  | @registered r f role p hf =>
    cases he
    exact ⟨_, r.password, (Registration.gives_of_form hf).password, rfl⟩
  | _ => cases he

theorem hash_of_rehashed (h : Effect s src w c answer w') {id : UserId} {hash : String}
    (hr : c.rehashed? src w.salts answer = some (id, hash)) :
    ∃ salt password, Password.minLength ≤ password.length ∧ hash = Password.hash salt password := by
  cases h with
  | stranded _ _ _ _ hn => cases (Call.succeeded?_eq_none hn _).symm.trans hr
  | @passwordChanged user old new hu hlen =>
    cases hr
    exact ⟨_, new, hlen, rfl⟩
  | _ => cases hr

end Effect

/-- What the history tells of a user who registered so. -/
structure Enrolment.Describes (e : Enrolment) (s : Service) (src : Sources) (past : List Step) (u : User) : Prop where
  id : u.id = e.answer.id
  address : ∀ c, u.address c = (e.request.address? c).bind Text.filled?
  name : u.name = e.answer.name
  roleId : u.roleId = s.defaultRole
  role : ∃ role, Directory.role? s.defaultRole = some role ∧ role.name = e.answer.roleName
  hash : u.passwordHash = currentHash s src past e
  verified : ∀ c, (u.verifiedAt c).isSome ↔ ∃ a, u.address c = some a ∧ ∃ r ∈ past, r.confirmed? s src = some (c, a)

/-- The history of a deployment tells who its users are. -/
structure Chronicled (s : Service) (src : Sources) (past : List Step) (d : Directory) : Prop where
  described : ∀ {id u}, d.users.get? id = some u →
    ∃ r ∈ past, ∃ e, r.enrolled? s src = some e ∧ e.Describes s src past u
  kept : ∀ {r e}, r ∈ past → r.enrolled? s src = some e →
    ∃ u, d.users.get? e.answer.id = some u ∧ e.Describes s src past u
  confirmed : ∀ {r c a}, r ∈ past → r.confirmed? s src = some (c, a) →
    ∃ u, d.users.get? u.id = some u ∧ u.address c = some a
  rehashed : ∀ {r id h}, r ∈ past → r.rehashed? s src = some (id, h) → (d.users.get? id).isSome

variable {s : Service} {src : Sources} {past : List Step} {r : Step}

theorem currentHash_cons (e : Enrolment) :
    currentHash s src (r :: past) e =
      (((r.rehashed? s src).filter (·.1 = e.answer.id)).map (·.2)).getD (currentHash s src past e) := by
  unfold currentHash
  rw [List.findSome?_cons]
  cases ((r.rehashed? s src).filter (·.1 = e.answer.id)).map (·.2) <;> rfl

theorem Enrolment.Describes.cons {e : Enrolment} {u u' : User} (h : e.Describes s src past u)
    (ht : u.Turns (r.rehashed? s src) (r.confirmed? s src) u') : e.Describes s src (r :: past) u' where
  id := ht.id.trans h.id
  address c := (ht.address c).trans (h.address c)
  name := ht.name.trans h.name
  roleId := ht.roleId.trans h.roleId
  role := h.role
  hash := by rw [ht.hash, currentHash_cons, h.id, h.hash]
  verified c := by
    rw [ht.verified, h.verified, ht.address]
    constructor
    · rintro (⟨a, ha, r', hr', hc⟩ | ⟨a, ha, hc⟩)
      · exact ⟨a, ha, r', List.mem_cons_of_mem _ hr', hc⟩
      · exact ⟨a, ha, r, List.mem_cons_self, hc⟩
    · rintro ⟨a, ha, r', hr', hc⟩
      rcases List.mem_cons.1 hr' with rfl | hr'
      · exact .inr ⟨a, ha, hc⟩
      · exact .inl ⟨a, ha, r', hr', hc⟩

/-- Of a newcomer the history tells nothing but that they registered. -/
theorem Enrolment.Opens.describes {e : Enrolment} {u : User} (h : e.Opens s u)
    (hr : ∀ r ∈ past, ∀ h, r.rehashed? s src ≠ some (u.id, h))
    (hc : ∀ r ∈ past, ∀ c a, u.address c = some a → r.confirmed? s src ≠ some (c, a)) : e.Describes s src past u where
  id := h.id
  address := h.address
  name := h.name
  roleId := h.roleId
  role := h.role
  hash := by
    have hn : (past.findSome? fun r => ((r.rehashed? s src).filter (·.1 = e.answer.id)).map (·.2)) = none := by
      rw [List.findSome?_eq_none_iff]
      intro r hr'
      rw [Option.map_eq_none_iff, Option.filter_eq_none_iff]
      rintro ⟨id, x⟩ hx
      simpa [← h.id] using fun hid : id = u.id => hr r hr' x (hid ▸ hx)
    rw [currentHash, hn, h.hash]
    rfl
  verified c := by
    rw [h.verified]
    simp only [Option.isSome_none, Bool.false_eq_true, false_iff]
    rintro ⟨a, ha, r, hr, hx⟩
    exact hc r hr c a ha hx

namespace Chronicled

/-- Whoever is new has just registered, and the history tells nothing else of them. -/
theorem describes_new (h : Chronicled s src past r.before.accounts) (hd : r.before.accounts.Lawful)
    (ho : r.before.codes.Owned r.before.accounts) (hc : Instant.InCalendar (r.time + s.codeTtl)) {id : UserId}
    {u : User} (hn : r.before.accounts.users.get? id = none) (hu : (r.after s src).accounts.users.get? id = some u) :
    ∃ x, r.enrolled? s src = some x ∧ x.Describes s src (r :: past) u := by
  have e := r.effect s src
  obtain ⟨x, hx, hopen, hfree⟩ := e.opened hd ho hc hn hu
  have hid : u.id = id := (e.lawful hd).named hu
  refine ⟨x, hx, hopen.describes (fun r' hr' y hy => ?_) fun r' hr' c a ha hca => ?_⟩
  · have known : (r.before.accounts.users.get? u.id).isSome := by
      rcases List.mem_cons.1 hr' with rfl | hr'
      · exact e.user_of_rehashed hy
      · exact h.rehashed hr' hy
    rw [hid, hn] at known
    cases known
  · have owner : ∃ v, r.before.accounts.users.get? v.id = some v ∧ v.address c = some a := by
      rcases List.mem_cons.1 hr' with rfl | hr'
      · exact e.owner_of_confirmed hd hca
      · exact h.confirmed hr' hca
    obtain ⟨v, hv, hva⟩ := owner
    exact hfree v c a hv ha hva

theorem step (h : Chronicled s src past r.before.accounts) (hd : r.before.accounts.Lawful)
    (ho : r.before.codes.Owned r.before.accounts) (hc : Instant.InCalendar (r.time + s.codeTtl)) :
    Chronicled s src (r :: past) (r.after s src).accounts := by
  have e := r.effect s src
  refine {
    described := ?_
    kept := ?_
    confirmed := ?_
    rehashed := ?_ }
  · intro id u hu
    cases hb : r.before.accounts.users.get? id with
    | none =>
      obtain ⟨x, hx, hdesc⟩ := h.describes_new hd ho hc hb hu
      exact ⟨r, List.mem_cons_self, x, hx, hdesc⟩
    | some v =>
      obtain ⟨v', hv', ht⟩ := e.turns hd hb
      obtain rfl : v' = u := Option.some.inj (hv'.symm.trans hu)
      obtain ⟨r', hr', x, hx, hdesc⟩ := h.described hb
      exact ⟨r', List.mem_cons_of_mem _ hr', x, hx, hdesc.cons ht⟩
  · intro r' x hr' hx
    rcases List.mem_cons.1 hr' with rfl | hr'
    · obtain ⟨hn, hs⟩ := e.get?_of_enrolled hd hx
      obtain ⟨u, hu⟩ := Option.isSome_iff_exists.1 hs
      obtain ⟨y, hy, hdesc⟩ := h.describes_new hd ho hc hn hu
      obtain rfl : y = x := Option.some.inj (hy.symm.trans hx)
      exact ⟨u, hu, hdesc⟩
    · obtain ⟨v, hv, hdesc⟩ := h.kept hr' hx
      obtain ⟨v', hv', ht⟩ := e.turns hd hv
      exact ⟨v', hv', hdesc.cons ht⟩
  · intro r' c a hr' hx
    have before : ∃ u, r.before.accounts.users.get? u.id = some u ∧ u.address c = some a := by
      rcases List.mem_cons.1 hr' with rfl | hr'
      · exact e.owner_of_confirmed hd hx
      · exact h.confirmed hr' hx
    obtain ⟨u, hu, ha⟩ := before
    obtain ⟨u', hu', ht⟩ := e.turns hd hu
    exact ⟨u', ht.id ▸ hu', (ht.address c).trans ha⟩
  · intro r' id x hr' hx
    have before : (r.before.accounts.users.get? id).isSome := by
      rcases List.mem_cons.1 hr' with rfl | hr'
      · exact e.user_of_rehashed hx
      · exact h.rehashed hr' hx
    obtain ⟨u, hu⟩ := Option.isSome_iff_exists.1 before
    obtain ⟨u', hu', -⟩ := e.turns hd hu
    exact Option.isSome_of_eq_some hu'

theorem of_run {moves : Int → Prop} {t₀ : Int} {w : World Directory}
    (h : Run s src moves (.fresh t₀) past w) (hc : ∀ r ∈ past, Instant.InCalendar (r.time + s.codeTtl)) :
    Chronicled s src past w.accounts := by
  induction h with
  | start => exact ⟨nofun, nofun, nofun, nofun⟩
  | @call past w c h ih =>
    have hp := ih fun r hr => hc r (List.mem_cons_of_mem _ hr)
    exact hp.step h.lawful h.owned (hc ⟨w, c⟩ List.mem_cons_self)
  | sweep _ ih =>
    rw [World.accounts_swept]
    exact ih hc
  | settle _ ih =>
    rw [World.accounts_settled]
    exact ih hc
  | move _ _ ih => exact ih hc

end Chronicled
end SignIn
