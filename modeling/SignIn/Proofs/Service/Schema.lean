import SignIn.Proofs.Account.Repository
import SignIn.Proofs.Service.Newcomer

/-! Accounts in memory keep the rules of the tables that they stand for, and codes are of those who own the address. -/

namespace SignIn

variable {s : Service} {src : Sources} {moves : Int → Prop} {t : Int} {past : List Step} {w : World Directory}

/-- What the table asks of each row. -/
structure User.Complete (u : User) : Prop where
  id : 1 ≤ u.id
  name : u.name ≠ ""
  reached : u.email.isSome ∨ u.phone.isSome
  role : (Directory.role? u.roleId).isSome

theorem User.Same.complete {u u' : User} (h : u.Same u') (hu : u.Complete) : u'.Complete where
  id := h.id ▸ hu.id
  name := h.name ▸ hu.name
  reached := by
    rw [show u'.email = u.email from h.address .email, show u'.phone = u.phone from h.address .phone]
    exact hu.reached
  role := h.roleId ▸ hu.role

/-- Numbers are positive and never given out twice, no address is shared, and each row is complete. -/
structure Directory.Schema (d : Directory) : Prop extends Directory.Lawful d where
  first : 1 ≤ d.nextId
  complete : ∀ {id u}, d.users.get? id = some u → u.Complete

theorem Directory.Schema.empty : Directory.Schema {} where
  toLawful := .empty
  first := by decide
  complete h := by cases h

namespace Directory

variable {d : Directory}

theorem Schema.change (hd : d.Schema) (id : UserId) {f : User → User} (hf : ∀ u : User, u.Same (f u)) :
    (d.change id f).2.Schema where
  toLawful := hd.toLawful.change id hf
  first := by
    rw [nextId_change]
    exact hd.first
  complete h := by
    rw [get?_change hd.toLawful] at h
    split at h
    next =>
      obtain ⟨v, hv, rfl⟩ := Option.map_eq_some_iff.1 h
      exact (hf v).complete (hd.complete hv)
    next => exact hd.complete h

theorem Schema.grown (hd : d.Schema) {now : Int} {u : NewUser} (hn : d.nextId ≠ Int64.maxValue)
    (hu : ∀ id v c a, (id, v) ∈ d.users → u.address c = some a → v.address c ≠ some a) (hname : u.name ≠ "")
    (hr : u.email.isSome ∨ u.phone.isSome) (hrole : (role? u.roleId).isSome) : (d.grown now u).Schema where
  toLawful := hd.toLawful.grown hn hu
  first := Int64.le_trans hd.first (Int64.le_of_lt (lt_next hn))
  complete h := by
    rw [get?_grown] at h
    split at h
    next =>
      cases h
      exact ⟨hd.first, hname, hr, hrole⟩
    next => exact hd.complete h

end Directory

theorem Form.Admissible.schema {r : Registration} {f : Form} {w : Holdings} (ha : f.Admissible s w.accounts)
    (hf : r.form = .ok f) (hd : w.accounts.Schema) (password : String) :
    (w.enrolled src s f password).accounts.Schema := by
  have g := Registration.gives_of_form hf
  refine hd.grown ha.number (ha.free_newUser _ _) (Text.filled?_eq_some_iff.1 g.name).2 ?_ ha.role
  have hr := g.address
  cases hc : f.channel with
  | phone => exact .inr (Option.isSome_of_eq_some (hc ▸ hr))
  | email => exact .inl (Option.isSome_of_eq_some (hc ▸ hr))

/-- A code says where it was sent. -/
def PasscodeStore.Addressed (codes : PasscodeStore) : Prop :=
  ∀ c a e, codes.get? (c, a) = some e → e.value.channel = c ∧ e.value.address = a

namespace PasscodeStore

variable {codes : PasscodeStore}

theorem Addressed.insert (h : codes.Addressed) (p : Passcode) (t : Int) :
    Addressed (codes.insert (p.channel, p.address) ⟨p, t⟩) := by
  intro c a e he
  rw [Table.get?_insert] at he
  split at he
  next hk =>
    cases hk
    cases he
    exact ⟨rfl, rfl⟩
  next => exact h c a e he

theorem Addressed.delete (h : codes.Addressed) (channel : Channel) (address : String) :
    (codes.delete channel address).Addressed := by
  intro c a e he
  rw [PasscodeStore.delete, Table.get?_erase] at he
  split at he
  next => cases he
  next => exact h c a e he

theorem Addressed.purge (h : codes.Addressed) (hk : codes.keys.Nodup) (now : Int) :
    (codes.purge now).2.Addressed := by
  intro c a e he
  rw [show (codes.purge now).2.get? _ = _ from Table.get?_filter hk _ _] at he
  exact h c a e (Option.filter_eq_some_iff.1 he).1

end PasscodeStore

namespace Effect

variable {w w' : Holdings} {c : Call} {answer : Option (Except ServiceError c.Answer)}

theorem schema (h : Effect s src w c answer w') (hd : w.accounts.Schema) : w'.accounts.Schema := by
  cases h with
  | stranded d hf ha => exact ha.schema hf hd _
  | registered hf ha => exact ha.schema hf hd _
  | confirmed => exact hd.change _ (User.same_verify · _ _)
  | passwordChanged => exact hd.change _ (User.same_setPassword · _ _)
  | _ => exact hd

theorem addressed (h : Effect s src w c answer w') (ha : w.codes.Addressed) : w'.codes.Addressed := by
  cases h with
  | registered => exact ha.insert _ _
  | sent => exact ha.insert _ _
  | confirmed => exact ha.delete _ _
  | _ => exact ha

end Effect

namespace Run

theorem schema (h : Run s src moves (.fresh t) past w) : w.accounts.Schema := by
  induction h with
  | start => exact .empty
  | call c _ ih => exact (Step.effect s src ⟨_, c⟩).schema ih
  | sweep _ ih => rwa [World.accounts_swept]
  | settle _ ih => rwa [World.accounts_settled]
  | move _ _ ih => exact ih

theorem addressed (h : Run s src moves (.fresh t) past w) : w.codes.Addressed := by
  induction h with
  | start => exact fun _ _ _ h => nomatch h
  | call c _ ih => exact (Step.effect s src ⟨_, c⟩).addressed ih
  | sweep h ih =>
    rw [World.codes_swept]
    exact ih.purge h.owned.keyed _
  | settle _ ih => rwa [World.codes_settled]
  | move _ _ ih => exact ih

end Run

/-- Whatever is done, accounts keep the rules of the tables, so that the order of the users makes no difference, and
each code is that of the one user who owns the address. A directory by itself takes in all who can be told apart from
those it has. -/
theorem upholds_schema (h : Run s src moves (.fresh t) past w) :
    w.accounts.Schema ∧
    (∀ d : Directory, d.Rearranges w.accounts → ∀ c a, d.byAddress? c a = w.accounts.byAddress? c a) ∧
    (∀ c a e, w.codes.get? (c, a) = some e → e.value.channel = c ∧ e.value.address = a ∧
      ∃ u, w.accounts.OwnedBy c a u ∧ e.value.userId = u.id) ∧
    ∀ calls (d : Directory), d.Rearranges (.after calls) → ∀ now u, d.Enrols calls now u := by
  refine ⟨h.schema, fun d hr => hr.byAddress?_eq h.lawful, fun c a e he => ?_, fun calls d hr => d.enrols hr⟩
  obtain ⟨hc, ha⟩ := h.addressed c a e he
  obtain ⟨u, hu, hua⟩ := h.owned.owner he
  have hid := h.lawful.named hu
  exact ⟨hc, ha, u, h.lawful.ownedBy ((Directory.byAddress?_eq_some_iff h.lawful).2 ⟨hid ▸ hu, hua⟩), hid.symm⟩

/-- A newcomer's code is their own, and their address is not given away. -/
theorem upholds_schema_newcomer : ∃ (past : List Step) (w : World Directory) (e : Expiring Passcode) (u : User),
    Run Sample.service Sample.sources (0 ≤ ·) (.fresh 0) past w ∧
    w.codes.get? (.email, "ada@home") = some e ∧ w.accounts.users.get? e.value.userId = some u ∧ u.Complete ∧
    (Directory.create (.after [(0, .create ⟨"Ada", none, some "ada@home", "", 3⟩)]) 5
      ⟨"Eve", none, some "ada@home", "", 3⟩).1 = some (.error (.uniqueViolation "users_email_key")) := by
  obtain ⟨a, l, w₁, w₂, w₃, h₁, h₂, -⟩ := Sample.welcomes_ada
  have h₀ : Run Sample.service Sample.sources (0 ≤ ·) (.fresh 0) [] (.fresh 0) := .start
  have h := h₀.call_of_perform h₁
  obtain ⟨hschema, -, hcodes, henrols⟩ := upholds_schema h
  have e := Step.effect Sample.service Sample.sources ⟨w₁, Sample.confirms⟩
  rw [Step.answer_of_perform h₂] at e
  generalize Step.after Sample.service Sample.sources ⟨w₁, Sample.confirms⟩ = w at e
  generalize w.holdings = w at e
  cases e with
  | confirmed ha _ hp =>
    cases (show Text.filled? "ada@home" = some "ada@home" by decide).symm.trans ha
    obtain ⟨e, he, -⟩ := PasscodeStore.live?_eq_some_iff.1 hp
    obtain ⟨-, -, u, hu, hid⟩ := hcodes _ _ e he
    obtain ⟨hu, -⟩ := (hu u.id u).2 ⟨rfl, rfl⟩
    refine ⟨_, w₁, e, u, h, he, hid ▸ hu, hschema.complete hu, ?_⟩
    have henrol := henrols [(0, .create ⟨"Ada", none, some "ada@home", "", 3⟩)] _ ⟨.refl _, rfl⟩ 5
      ⟨"Eve", none, some "ada@home", "", 3⟩
    obtain ⟨k, hk⟩ := henrol.violation_iff.2 ⟨by decide, .email, 1, _, "ada@home", rfl, rfl, rfl⟩
    obtain ⟨c, rfl, id, v, x, hv, hvx, hx⟩ := henrol.names hk
    cases c with
    | email => exact hk
    | phone => cases hx

end SignIn
