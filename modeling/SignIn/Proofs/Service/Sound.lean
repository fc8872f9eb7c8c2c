import SignIn.Proofs.Service.Effect
import SignIn.Proofs.Text.Blank

/-! What stays true of the clock, accounts, sessions and codes whatever is done. -/

namespace SignIn

variable {s : Service} {src : Sources} {moves : Int → Prop} {t : Int} {past : List Step} {w : World Directory}

/-- Whoever was there is still there, under the same addresses. -/
def Directory.Extends (d d' : Directory) : Prop :=
  ∀ id u, d.users.get? id = some u → ∃ u', d'.users.get? id = some u' ∧ ∀ c, u'.address c = u.address c

theorem Directory.Retains.extends {d d' : Directory} (h : d.Retains d') : d.Extends d' := by
  intro id u hu
  obtain ⟨u', hu', hs⟩ := h id u hu
  exact ⟨u', hu', hs.address⟩

def Directory.Trimmed (d : Directory) : Prop :=
  ∀ id u c a, d.users.get? id = some u → u.address c = some a → Text.filled? a = some a

/-- Codes are kept for addresses of those they were sent to. -/
structure PasscodeStore.Owned (codes : PasscodeStore) (d : Directory) : Prop where
  keyed : codes.keys.Nodup
  owner : ∀ {c a e}, codes.get? (c, a) = some e →
    ∃ u, d.users.get? e.value.userId = some u ∧ u.address c = some a

namespace PasscodeStore

variable {codes : PasscodeStore} {d d' : Directory}

theorem Owned.empty (d : Directory) : Owned [] d where
  keyed := .nil
  owner h := by cases h

theorem Owned.of_extends (h : codes.Owned d) (hd : d.Extends d') : codes.Owned d' where
  keyed := h.keyed
  owner he := by
    obtain ⟨u, hu, ha⟩ := h.owner he
    obtain ⟨u', hu', ha'⟩ := hd _ u hu
    exact ⟨u', hu', (ha' _).trans ha⟩

theorem Owned.insert (h : codes.Owned d) {c : Channel} {a : String} {e : Expiring Passcode} {u : User}
    (hu : d.users.get? e.value.userId = some u) (ha : u.address c = some a) : Owned (codes.insert (c, a) e) d where
  keyed := Table.nodup_keys_insert _ _ h.keyed
  owner he := by
    rw [Table.get?_insert] at he
    split at he
    next hk =>
      cases hk
      cases he
      exact ⟨u, hu, ha⟩
    next => exact h.owner he

theorem Owned.delete (h : codes.Owned d) (c : Channel) (a : String) : (codes.delete c a).Owned d where
  keyed := Table.nodup_keys_erase _ h.keyed
  owner he := by
    rw [PasscodeStore.delete, Table.get?_erase] at he
    split at he
    next => cases he
    next => exact h.owner he

theorem Owned.purge (h : codes.Owned d) (now : Int) : (codes.purge now).2.Owned d where
  keyed := Table.nodup_keys_filter _ h.keyed
  owner he := by
    rw [show (codes.purge now).2.get? _ = _ from Table.get?_filter h.keyed _ _] at he
    exact h.owner (Option.filter_eq_some_iff.1 he).1

end PasscodeStore

theorem Registration.filled?_of_form {r : Registration} {f : Form} (h : r.form = .ok f) {c : Channel} {a : String}
    (ha : f.reached c = some a) : Text.filled? a = some a := by
  rw [(gives_of_form h).reached] at ha
  obtain ⟨b, -, hb⟩ := Option.bind_eq_some_iff.1 ha
  exact Text.filled?_of_filled? hb

theorem Form.Admissible.free_newUser {f : Form} {d : Directory} (hf : f.Admissible s d) (hash : String) (role : RoleId)
    (id : UserId) (v : User) (c : Channel) (a : String) (hv : (id, v) ∈ d.users)
    (ha : (f.newUser hash role).address c = some a) : v.address c ≠ some a :=
  hf.free id v c a hv (f.address_newUser _ _ c ▸ ha)

theorem Form.Admissible.lawful {f : Form} {w : Holdings} (hf : f.Admissible s w.accounts) (hd : w.accounts.Lawful)
    (password : String) : (w.enrolled src s f password).accounts.Lawful :=
  hd.grown hf.number (hf.free_newUser _ _)

namespace Effect

variable {w w' : Holdings} {c : Call} {answer : Option (Except ServiceError c.Answer)}

theorem now_eq (h : Effect s src w c answer w') : w'.now = w.now := by
  cases h <;> rfl

theorem ids_le (h : Effect s src w c answer w') : w.ids ≤ w'.ids := by
  cases h <;> first | exact Nat.le_refl _ | exact Nat.le_add_right _ _

theorem lawful (h : Effect s src w c answer w') (hd : w.accounts.Lawful) : w'.accounts.Lawful := by
  cases h with
  | stranded d hf ha => exact ha.lawful hd _
  | registered hf ha => exact ha.lawful hd _
  | confirmed => exact hd.change _ (User.same_verify · _ _)
  | passwordChanged => exact hd.change _ (User.same_setPassword · _ _)
  | _ => exact hd

theorem retains_accounts (h : Effect s src w c answer w') (hd : w.accounts.Lawful) :
    w.accounts.Retains w'.accounts := by
  cases h with
  | stranded => exact hd.retains_grown _ _
  | registered => exact hd.retains_grown _ _
  | confirmed => exact hd.retains_change _ (User.same_verify · _ _)
  | passwordChanged => exact hd.retains_change _ (User.same_setPassword · _ _)
  | _ => exact .refl _

theorem extends_accounts (h : Effect s src w c answer w') (hd : w.accounts.Lawful) :
    w.accounts.Extends w'.accounts := (h.retains_accounts hd).extends

theorem trimmed (h : Effect s src w c answer w') (hd : w.accounts.Lawful) (ht : w.accounts.Trimmed) :
    w'.accounts.Trimmed := by
  have grown {r : Registration} {f : Form} (hf : r.form = .ok f) (password : String) :
      (w.enrolled src s f password).accounts.Trimmed := by
    intro id u c a hu ha
    rw [Holdings.get?_enrolled] at hu
    split at hu
    next =>
      cases hu
      rw [Holdings.address_newcomer] at ha
      exact Registration.filled?_of_form hf ha
    next => exact ht id u c a hu ha
  have changed (k : UserId) {f : User → User} (hf : ∀ u : User, u.Same (f u)) :
      (w.accounts.change k f).2.Trimmed := by
    intro id u c a hu ha
    rw [Directory.get?_change hd] at hu
    split at hu
    next =>
      obtain ⟨v, hv, rfl⟩ := Option.map_eq_some_iff.1 hu
      exact ht k v c a hv (((hf v).address c).symm.trans ha)
    next => exact ht id u c a hu ha
  cases h with
  | stranded d hf => exact grown hf _
  | registered hf => exact grown hf _
  | confirmed => exact changed _ (User.same_verify · _ _)
  | passwordChanged => exact changed _ (User.same_setPassword · _ _)
  | _ => exact ht

theorem owned (h : Effect s src w c answer w') (hd : w.accounts.Lawful) (ho : w.codes.Owned w.accounts) :
    w'.codes.Owned w'.accounts := by
  have hx := ho.of_extends (h.extends_accounts hd)
  have sent {w : Holdings} {channel : Channel} {address : String} {p : Passcode} (hd : w.accounts.Lawful)
      (ho : w.codes.Owned w.accounts) (hp : w.Sends s src channel address p) :
      (w.sent s p).codes.Owned w.accounts := by
    obtain ⟨u, hu, hid⟩ := hp.owner
    obtain ⟨hu, ha⟩ := (Directory.byAddress?_eq_some_iff hd).1 hu
    exact ho.insert (hid ▸ hu) (hp.channel_eq ▸ ha)
  cases h with
  | registered hf ha _ hp => exact sent (ha.lawful hd _) hx hp
  | sent hp => exact sent hd ho hp
  | confirmed => exact hx.delete _ _
  | _ => exact hx

theorem indexed (h : Effect s src w c answer w') (hs : w.sessions.Indexed) : w'.sessions.Indexed := by
  have opened (x : Session) (ttl : Int) : (w.opened src x ttl).sessions.Indexed := by
    refine (hs.remove _).enter ?_ rfl
    rw [SessionStore.get?_remove, if_pos rfl]
  cases h with
  | loggedIn => exact opened _ _
  | refreshed => exact (opened _ _).remove _
  | collided => exact (opened _ _).remove _
  | loggedOut => exact hs.remove _
  | revoked => exact hs.remove _
  | listed => exact hs.list _ _
  | _ => exact hs

end Effect

theorem World.now_perform (s : Service) (src : Sources) (c : Call) (w : World Directory) :
    (w.perform s src c).2.now = w.now :=
  (Step.effect s src ⟨w, c⟩).now_eq

theorem World.now_of_perform {w w' : World Directory} {c : Call} {answer : Option (Except ServiceError c.Answer)}
    (h : w.perform s src c = (answer, w')) : w'.now = w.now := by
  rw [← w.now_perform s src c, h]

namespace Run

theorem lawful_of_start {start : World Directory} (h : Run s src moves start past w) (hd : start.accounts.Lawful) :
    w.accounts.Lawful := by
  induction h with
  | start => exact hd
  | call c _ ih => exact (Step.effect s src ⟨_, c⟩).lawful ih
  | sweep _ ih => rwa [World.accounts_swept]
  | settle _ ih => rwa [World.accounts_settled]
  | move _ _ ih => exact ih

theorem retains_accounts {start : World Directory} (h : Run s src moves start past w) (hd : start.accounts.Lawful) :
    start.accounts.Retains w.accounts := by
  induction h with
  | start => exact .refl _
  | call c h ih => exact ih.trans ((Step.effect s src ⟨_, c⟩).retains_accounts (h.lawful_of_start hd))
  | sweep _ ih => rwa [World.accounts_swept]
  | settle _ ih => rwa [World.accounts_settled]
  | move _ _ ih => exact ih

theorem lawful (h : Run s src moves (.fresh t) past w) : w.accounts.Lawful := h.lawful_of_start .empty

theorem trimmed (h : Run s src moves (.fresh t) past w) : w.accounts.Trimmed := by
  induction h with
  | start => exact fun _ _ _ _ h => nomatch h
  | call c h ih => exact (Step.effect s src ⟨_, c⟩).trimmed h.lawful ih
  | sweep _ ih => rwa [World.accounts_swept]
  | settle _ ih => rwa [World.accounts_settled]
  | move _ _ ih => exact ih

theorem owned (h : Run s src moves (.fresh t) past w) : w.codes.Owned w.accounts := by
  induction h with
  | start => exact .empty _
  | call c h ih => exact (Step.effect s src ⟨_, c⟩).owned h.lawful ih
  | sweep _ ih =>
    rw [World.accounts_swept, World.codes_swept]
    exact ih.purge _
  | settle _ ih => rwa [World.accounts_settled, World.codes_settled]
  | move _ _ ih => exact ih

theorem indexed (h : Run s src moves (.fresh t) past w) : w.sessions.Indexed := by
  induction h with
  | start => exact .empty
  | call c _ ih => exact (Step.effect s src ⟨_, c⟩).indexed ih
  | sweep _ ih =>
    rw [World.sessions_swept]
    exact ih.purge _
  | settle _ ih => rwa [World.sessions_settled]
  | move _ _ ih => exact ih

theorem start_le {start : World Directory} (h : Run s src moves start past w) (hm : ∀ d, moves d → 0 ≤ d) :
    start.now ≤ w.now := by
  induction h with
  | start => exact Int.le_refl _
  | @call past w c _ ih =>
    rw [World.now_perform]
    exact ih
  | sweep _ ih => rwa [World.now_swept]
  | settle _ ih => rwa [World.now_settled]
  | move hd _ ih =>
    have := hm _ hd
    dsimp only
    omega

end Run
end SignIn
