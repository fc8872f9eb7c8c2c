import SignIn.Account.Directory
import SignIn.Proofs.Table

/-! Accounts in memory: every user is kept under their number, and no two are reached the same way. -/

namespace SignIn

theorem User.address_verify (u : User) (c c' : Channel) (now : Int) : (u.verify c now).address c' = u.address c' := by
  cases c <;> cases c' <;> rfl

theorem User.id_verify (u : User) (c : Channel) (now : Int) : (u.verify c now).id = u.id := by
  cases c <;> rfl

theorem User.name_verify (u : User) (c : Channel) (now : Int) : (u.verify c now).name = u.name := by
  cases c <;> rfl

theorem User.verifiedAt_verify (u : User) (c c' : Channel) (now : Int) :
    (u.verify c now).verifiedAt c' = if c' = c then some now else u.verifiedAt c' := by
  cases c <;> cases c' <;> rfl

/-- The same account, whatever became of its password and of what is confirmed. -/
structure User.Same (u u' : User) : Prop where
  id : u'.id = u.id
  name : u'.name = u.name
  address : ∀ c, u'.address c = u.address c
  roleId : u'.roleId = u.roleId
  createdAt : u'.createdAt = u.createdAt

theorem User.Same.refl (u : User) : u.Same u := ⟨rfl, rfl, fun _ => rfl, rfl, rfl⟩

theorem User.same_verify (u : User) (c : Channel) (now : Int) : u.Same (u.verify c now) := by
  cases c <;> exact ⟨rfl, rfl, fun c => by cases c <;> rfl, rfl, rfl⟩

theorem User.same_setPassword (u : User) (hash : String) (now : Int) :
    u.Same { u with passwordHash := hash, updatedAt := now } :=
  ⟨rfl, rfl, fun c => by cases c <;> rfl, rfl, rfl⟩

def NewUser.address (u : NewUser) : Channel → Option String
  | .phone => u.phone
  | .email => u.email

theorem NewUser.address_toUser (u : NewUser) (id : UserId) (now : Int) (c : Channel) :
    (u.toUser id now).address c = u.address c := by
  cases c <;> rfl

namespace Directory

variable {d : Directory} {now : Int}

/-- Whoever was there is still there, and still who they were. -/
def Retains (d d' : Directory) : Prop :=
  ∀ id u, d.users.get? id = some u → ∃ u', d'.users.get? id = some u' ∧ u.Same u'

theorem Retains.refl (d : Directory) : d.Retains d := fun _ u h => ⟨u, h, .refl u⟩

theorem Retains.trans {d d' d'' : Directory} (h : d.Retains d') (h' : d'.Retains d'') : d.Retains d'' := by
  intro id u hu
  obtain ⟨u', hu', hs⟩ := h id u hu
  obtain ⟨u'', hu'', hs'⟩ := h' id u' hu'
  exact ⟨u'', hu'', hs'.id.trans hs.id, hs'.name.trans hs.name, fun c => (hs'.address c).trans (hs.address c),
    hs'.roleId.trans hs.roleId, hs'.createdAt.trans hs.createdAt⟩

structure Lawful (d : Directory) : Prop where
  keyed : d.users.keys.Nodup
  named : ∀ {id u}, d.users.get? id = some u → u.id = id
  bounded : ∀ {id u}, d.users.get? id = some u → id < d.nextId
  distinct : ∀ {u v c a}, d.users.get? u.id = some u → d.users.get? v.id = some v →
    u.address c = some a → v.address c = some a → u = v

theorem Lawful.empty : Lawful {} where
  keyed := .nil
  named h := by cases h
  bounded h := by cases h
  distinct h := by cases h

theorem byAddress?_eq_some_iff (hd : d.Lawful) {c : Channel} {a : String} {u : User} :
    d.byAddress? c a = some u ↔ d.users.get? u.id = some u ∧ u.address c = some a := by
  have found {v : User} (h : d.byAddress? c a = some v) : d.users.get? v.id = some v ∧ v.address c = some a := by
    obtain ⟨⟨id, v⟩, he, rfl⟩ := Option.map_eq_some_iff.1 h
    have hm := (Table.get?_eq_some_iff hd.keyed).2 (List.mem_of_find?_eq_some he)
    refine ⟨?_, of_decide_eq_true (List.find?_some he :)⟩
    rwa [hd.named hm]
  refine ⟨found, fun ⟨hu, ha⟩ => ?_⟩
  cases h : d.byAddress? c a with
  | some v =>
    obtain ⟨hv, hva⟩ := found h
    rw [hd.distinct hu hv ha hva]
  | none =>
    rw [byAddress?, Option.map_eq_none_iff, List.find?_eq_none] at h
    exact absurd ha (by simpa using h _ (Table.mem_of_get?_eq_some hu))

/-- The address is this user's and nobody else's. -/
def OwnedBy (d : Directory) (c : Channel) (a : String) (u : User) : Prop :=
  ∀ id v, d.users.get? id = some v ∧ v.address c = some a ↔ id = u.id ∧ v = u

theorem Lawful.ownedBy (hd : d.Lawful) {c : Channel} {a : String} {u : User} (h : d.byAddress? c a = some u) :
    d.OwnedBy c a u := by
  obtain ⟨hu, ha⟩ := (byAddress?_eq_some_iff hd).1 h
  intro id v
  constructor
  · rintro ⟨hv, hva⟩
    obtain rfl := hd.named hv
    obtain rfl := hd.distinct hv hu hva ha
    exact ⟨rfl, rfl⟩
  · rintro ⟨rfl, rfl⟩
    exact ⟨hu, ha⟩

theorem clash?_eq_none_iff {u : NewUser} {v : User} :
    clash? u v = none ↔ ∀ c a, u.address c = some a → v.address c ≠ some a := by
  unfold clash?
  constructor
  · intro h c a hu hv
    split at h
    next => cases h
    next he =>
      split at h
      next => cases h
      next hp =>
        have shared : v.address c = u.address c := hv.trans hu.symm
        cases c with
        | email => exact he ⟨Option.isSome_of_eq_some hu, shared⟩
        | phone => exact hp ⟨Option.isSome_of_eq_some hu, shared⟩
  · intro h
    have free (c : Channel) : ¬((u.address c).isSome ∧ v.address c = u.address c) := by
      rintro ⟨hs, he⟩
      obtain ⟨a, ha⟩ := Option.isSome_iff_exists.1 hs
      exact h c a ha (he.trans ha)
    exact (if_neg (free .email)).trans (if_neg (free .phone))

def grown (d : Directory) (now : Int) (u : NewUser) : Directory where
  users := d.users.insert d.nextId (u.toUser d.nextId now)
  nextId := d.nextId + 1

theorem create_cases (d : Directory) (now : Int) (u : NewUser) :
    (∃ e, d.create now u = (some (.error e), d)) ∨ d.create now u = (none, d) ∨
      d.create now u = (some (.ok (u.toUser d.nextId now)), d.grown now u) ∧
      (role? u.roleId).isSome ∧ d.nextId ≠ Int64.maxValue ∧
      ∀ id v c a, (id, v) ∈ d.users → u.address c = some a → v.address c ≠ some a := by
  unfold create
  split
  next => exact .inl ⟨_, rfl⟩
  next hr =>
    split
    next => exact .inl ⟨_, rfl⟩
    next hc =>
      split
      next => exact .inr (.inl rfl)
      next hn =>
        refine .inr (.inr ⟨rfl, Option.isSome_iff_ne_none.2 hr, hn, fun id v c a hv => ?_⟩)
        exact clash?_eq_none_iff.1 (List.findSome?_eq_none_iff.1 hc _ hv) c a

theorem create_ne_none (h : d.nextId ≠ Int64.maxValue) (now : Int) (u : NewUser) : (d.create now u).1 ≠ none := by
  unfold create
  split
  next => simp
  next => split <;> simp

theorem create_eq_of_free {u : NewUser} (hr : (role? u.roleId).isSome)
    (hu : ∀ id v c a, (id, v) ∈ d.users → u.address c = some a → v.address c ≠ some a) (now : Int) :
    d.create now u =
      if d.nextId = Int64.maxValue then (none, d) else (some (.ok (u.toUser d.nextId now)), d.grown now u) := by
  have hc : (d.users.findSome? fun e => clash? u e.2) = none :=
    List.findSome?_eq_none_iff.2 fun e he => clash?_eq_none_iff.2 fun c a => hu e.1 e.2 c a he
  rw [create, if_neg (Option.isSome_iff_ne_none.1 hr), hc]
  rfl

theorem create_of_free {u : NewUser} (hr : (role? u.roleId).isSome) (hn : d.nextId ≠ Int64.maxValue)
    (hu : ∀ id v c a, (id, v) ∈ d.users → u.address c = some a → v.address c ≠ some a) (now : Int) :
    d.create now u = (some (.ok (u.toUser d.nextId now)), d.grown now u) := by
  rw [create_eq_of_free hr hu, if_neg hn]

theorem toInt_next {n : UserId} (h : n ≠ Int64.maxValue) : (n + 1).toInt = n.toInt + 1 := by
  have hn : n.toInt ≠ Int64.maxValue.toInt := fun e => h (Int64.toInt_inj.1 e)
  have hlt := n.toInt_lt
  have hle := n.le_toInt
  have hone : (1 : Int64).toInt = 1 := rfl
  have hmax : Int64.maxValue.toInt = 9223372036854775807 := by decide
  rw [Int64.toInt_add, hone, Int.bmod_eq_of_le]
  · omega
  · omega

theorem lt_next {n : UserId} (h : n ≠ Int64.maxValue) : n < n + 1 := by
  rw [Int64.lt_iff_toInt_lt, toInt_next h]
  omega

theorem get?_grown (d : Directory) (now : Int) (u : NewUser) (id : UserId) :
    (d.grown now u).users.get? id = if id = d.nextId then some (u.toUser d.nextId now) else d.users.get? id :=
  Table.get?_insert _ _ _ _

theorem Lawful.get?_nextId (hd : d.Lawful) : d.users.get? d.nextId = none := by
  cases h : d.users.get? d.nextId with
  | none => rfl
  | some u => exact absurd (hd.bounded h) (Int64.lt_irrefl)

theorem Lawful.grown (hd : d.Lawful) {u : NewUser} (hn : d.nextId ≠ Int64.maxValue)
    (hu : ∀ id v c a, (id, v) ∈ d.users → u.address c = some a → v.address c ≠ some a) : (d.grown now u).Lawful where
  keyed := Table.nodup_keys_insert _ _ hd.keyed
  named := by
    intro id v h
    rw [get?_grown] at h
    split at h
    next hid =>
      cases h
      exact hid.symm
    next => exact hd.named h
  bounded := by
    intro id v h
    rw [get?_grown] at h
    split at h
    next hid => exact hid ▸ lt_next hn
    next => exact Int64.lt_trans (hd.bounded h) (lt_next hn)
  distinct := by
    intro v v' c a h h' ha ha'
    have fresh {x : User} (hx : d.users.get? x.id = some x) (hxa : x.address c = some a)
        (hua : (u.toUser d.nextId now).address c = some a) : False :=
      hu x.id x c a (Table.mem_of_get?_eq_some hx) ((u.address_toUser _ _ c).symm.trans hua) hxa
    rw [get?_grown] at h h'
    split at h <;> split at h'
    next => exact Option.some.inj (h.symm.trans h')
    next =>
      cases h
      exact (fresh h' ha' ha).elim
    next =>
      cases h'
      exact (fresh h ha ha').elim
    next => exact hd.distinct h h' ha ha'

theorem get?_change (hd : d.Lawful) (id : UserId) (f : User → User) (k : UserId) :
    (d.change id f).2.users.get? k = if k = id then (d.users.get? id).map f else d.users.get? k := by
  unfold change
  split
  next h =>
    split
    next hk => rw [hk, h]; rfl
    next => rfl
  next => exact Table.get?_alter _ _ _ hd.keyed

theorem nextId_change (d : Directory) (id : UserId) (f : User → User) : (d.change id f).2.nextId = d.nextId := by
  unfold change
  split
  next => rfl
  next => rfl

/-- A change that leaves number and addresses alone finds and leaves the same users. -/
theorem Lawful.change (hd : d.Lawful) (id : UserId) {f : User → User} (hf : ∀ u : User, u.Same (f u)) :
    (d.change id f).2.Lawful := by
  have before {k : UserId} {u : User} (h : (d.change id f).2.users.get? k = some u) :
      ∃ v, d.users.get? k = some v ∧ v.Same u := by
    rw [get?_change hd] at h
    split at h
    next hk =>
      obtain ⟨v, hv, rfl⟩ := Option.map_eq_some_iff.1 h
      exact ⟨v, hk ▸ hv, hf v⟩
    next => exact ⟨u, h, .refl u⟩
  refine {
    keyed := ?_
    named := ?_
    bounded := ?_
    distinct := ?_ }
  · unfold Directory.change
    split
    next => exact hd.keyed
    next => exact Table.nodup_keys_alter _ _ hd.keyed
  · intro k u h
    obtain ⟨v, hv, hs⟩ := before h
    rw [hs.id, hd.named hv]
  · intro k u h
    obtain ⟨v, hv, -⟩ := before h
    rw [nextId_change]
    exact hd.bounded hv
  · intro u u' c a h h' hu hu'
    obtain ⟨v, hv, hs⟩ := before h
    obtain ⟨v', hv', hs'⟩ := before h'
    have hvv : v = v' := hd.distinct (hs.id ▸ hv) (hs'.id ▸ hv') (hs.address c ▸ hu) (hs'.address c ▸ hu')
    rw [hs.id, hvv, ← hs'.id] at h
    exact Option.some.inj (h.symm.trans h')

theorem Lawful.retains_grown (hd : d.Lawful) (now : Int) (u : NewUser) : d.Retains (d.grown now u) := by
  intro id v hv
  have hid : id ≠ d.nextId := by
    rintro rfl
    rw [hd.get?_nextId] at hv
    cases hv
  exact ⟨v, by rw [get?_grown, if_neg hid, hv], .refl v⟩

theorem Lawful.retains_change (hd : d.Lawful) (id : UserId) {f : User → User}
    (hf : ∀ u : User, u.Same (f u)) : d.Retains (d.change id f).2 := by
  intro k v hv
  rw [get?_change hd]
  split
  next hk => exact ⟨f v, by rw [← hk, hv]; rfl, hf v⟩
  next => exact ⟨v, hv, .refl v⟩

end Directory
end SignIn
