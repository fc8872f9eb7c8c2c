import SignIn.Proofs.Clock
import SignIn.Proofs.Table
import SignIn.Session.Store

/-! The index of a session store names its records, each once and under its owner, whatever is done to the store. -/

namespace SignIn.SessionStore

variable {s : SessionStore} {now : Int} {user : UserId} {jti : String}

structure Indexed (s : SessionStore) : Prop where
  keyed : s.records.keys.Nodup
  indexKeyed : s.index.keys.Nodup
  named : ∀ {jti e}, s.records.get? jti = some e → e.value.jti = jti
  mem_iff : ∀ {user jti}, jti ∈ s.members user ↔ ∃ e, s.records.get? jti = some e ∧ e.value.userId = user
  nodup : ∀ user, (s.members user).Nodup
  inhabited : ∀ user, s.index.get? user ≠ some []

theorem Indexed.empty : Indexed {} where
  keyed := .nil
  indexKeyed := .nil
  named h := by cases h
  mem_iff := by simp [members]
  nodup _ := .nil
  inhabited _ h := by cases h

theorem live?_eq_some_iff {x : Session} :
    s.live? now jti = some x ↔ ∃ e, s.records.get? jti = some e ∧ now < e.expiresAt ∧ e.value = x := by
  simp [live?, Option.bind_eq_some_iff, Expiring.live?_eq_some_iff]

theorem Indexed.jti_eq_of_live? {x : Session} (hs : s.Indexed) (h : s.live? now jti = some x) : x.jti = jti := by
  obtain ⟨e, he, -, rfl⟩ := live?_eq_some_iff.1 h
  exact hs.named he

/-! What each change does to the records. -/

theorem get?_remove (s : SessionStore) (jti k : String) :
    (s.remove jti).records.get? k = if k = jti then none else s.records.get? k := by
  unfold remove
  split
  next h =>
    split
    next hk => rw [hk, h]
    next => rfl
  next => exact Table.get?_erase _ _ _

theorem get?_enter (s : SessionStore) (jti k : String) (e : Expiring Session) :
    (s.enter jti e).records.get? k = if k = jti then some e else s.records.get? k :=
  Table.get?_insert _ _ _ _

theorem get?_purge (hs : s.Indexed) {k : String} {e : Expiring Session} :
    (s.purge now).2.records.get? k = some e ↔ s.records.get? k = some e ∧ now < e.expiresAt := by
  rw [show (s.purge now).2.records.get? k = _ from Table.get?_filter hs.keyed _ k, Option.filter_eq_some_iff]
  simp [Expiring.isExpired]

theorem remove_eq_self (h : s.records.get? jti = none) : s.remove jti = s := by
  rw [remove, h]

theorem remove_remove (s : SessionStore) (jti : String) : (s.remove jti).remove jti = s.remove jti :=
  remove_eq_self (by rw [get?_remove, if_pos rfl])

/-! What is live afterwards, at once and later on. -/

theorem live?_remove (s : SessionStore) (jti : String) (now : Int) (k : String) :
    (s.remove jti).live? now k = if k = jti then none else s.live? now k := by
  rw [live?, get?_remove]
  split
  next => rfl
  next => rfl

theorem live?_enter (s : SessionStore) (jti : String) (e : Expiring Session) (now : Int) (k : String) :
    (s.enter jti e).live? now k = if k = jti then e.live? now else s.live? now k := by
  rw [live?, get?_enter]
  split
  next => rfl
  next => rfl

theorem live?_purge (hs : s.Indexed) {t : Int} (ht : now ≤ t) (k : String) :
    (s.purge now).2.live? t k = s.live? t k := by
  apply Option.ext
  intro x
  simp only [live?_eq_some_iff, get?_purge hs]
  constructor
  · rintro ⟨e, ⟨he, -⟩, h⟩
    exact ⟨e, he, h⟩
  · rintro ⟨e, he, h, hx⟩
    exact ⟨e, ⟨he, by omega⟩, h, hx⟩

/-! What each change does to the members of a user. -/

theorem members_unindex (hi : s.index.keys.Nodup) (user u : UserId) (jti : String) :
    (s.unindex user jti).members u =
      if u = user then (s.members user).filter (· ≠ jti) else s.members u := by
  simp only [members, unindex, Table.get?_alter _ _ _ hi]
  split
  next =>
    cases s.index.get? user with
    | none => rfl
    | some m =>
      rw [Option.map_some, Option.getD_some, Option.filter_some]
      split
      next => rfl
      next h => exact (Decidable.not_not.1 fun hne => h (decide_eq_true hne)).symm
  next => rfl

theorem members_enter (hi : s.index.keys.Nodup) (jti : String) (e : Expiring Session) (u : UserId) :
    (s.enter jti e).members u =
      if u = e.value.userId then jti :: (s.members u).filter (· ≠ jti) else s.members u := by
  simp only [members, enter, Table.get?_alter _ _ _ hi]
  split
  next h => rw [h, Option.getD_some]
  next => rfl

theorem Indexed.not_mem_members (hs : s.Indexed) (h : s.records.get? jti = none) (u : UserId) :
    jti ∉ s.members u := by
  intro hm
  obtain ⟨e, he, -⟩ := hs.mem_iff.1 hm
  rw [h] at he
  cases he

theorem Indexed.owner_eq (hs : s.Indexed) {e : Expiring Session} (he : s.records.get? jti = some e) {u : UserId}
    (h : jti ∈ s.members u) : u = e.value.userId := by
  obtain ⟨e', he', rfl⟩ := hs.mem_iff.1 h
  rw [he, Option.some.injEq] at he'
  rw [he']

/-- Whoever owns it, a record that is removed is a member of nobody. -/
theorem members_remove (hs : s.Indexed) (jti : String) (u : UserId) :
    (s.remove jti).members u = (s.members u).filter (· ≠ jti) := by
  have unchanged (h : jti ∉ s.members u) : s.members u = (s.members u).filter (· ≠ jti) := by
    refine (List.filter_eq_self.2 fun k hk => ?_).symm
    simpa using fun hj : k = jti => h (hj ▸ hk)
  unfold remove
  split
  next h => exact unchanged (hs.not_mem_members h u)
  next e he =>
    have hu := members_unindex (s := { s with records := s.records.erase jti }) hs.indexKeyed e.value.userId u jti
    rw [hu]
    split
    next h => rw [h]; rfl
    next h => exact unchanged fun hm => h (hs.owner_eq he hm)

theorem inhabited_remove (hs : s.Indexed) (jti : String) (u : UserId) :
    (s.remove jti).index.get? u ≠ some [] := by
  unfold remove
  split
  next => exact hs.inhabited u
  next =>
    simp only [unindex, Table.get?_alter _ _ _ hs.indexKeyed]
    split
    next =>
      intro e
      obtain ⟨-, e⟩ := Option.filter_eq_some_iff.1 e
      simp at e
    next => exact hs.inhabited u

theorem keyed_remove (hs : s.Indexed) (jti : String) :
    (s.remove jti).records.keys.Nodup ∧ (s.remove jti).index.keys.Nodup := by
  unfold remove
  split
  next => exact ⟨hs.keyed, hs.indexKeyed⟩
  next => exact ⟨Table.nodup_keys_erase _ hs.keyed, Table.nodup_keys_alter _ _ hs.indexKeyed⟩

theorem Indexed.remove (hs : s.Indexed) (jti : String) : (s.remove jti).Indexed where
  keyed := (keyed_remove hs jti).1
  indexKeyed := (keyed_remove hs jti).2
  named := by
    intro k e h
    rw [get?_remove] at h
    split at h
    next => cases h
    next => exact hs.named h
  mem_iff := by
    intro u k
    rw [members_remove hs, List.mem_filter, hs.mem_iff, get?_remove]
    by_cases hk : k = jti
    · simp [hk]
    · simp [hk]
  nodup := by
    intro u
    rw [members_remove hs]
    exact (hs.nodup u).filter _
  inhabited := inhabited_remove hs jti

theorem Indexed.enter (hs : s.Indexed) {e : Expiring Session} (hj : s.records.get? jti = none)
    (he : e.value.jti = jti) : (s.enter jti e).Indexed where
  keyed := Table.nodup_keys_insert _ _ hs.keyed
  indexKeyed := Table.nodup_keys_alter _ _ hs.indexKeyed
  named := by
    intro k e' h
    rw [get?_enter] at h
    split at h
    next hk =>
      cases h
      rw [he, hk]
    next => exact hs.named h
  mem_iff := by
    intro u k
    have hn := hs.not_mem_members hj
    rw [members_enter hs.indexKeyed, get?_enter]
    by_cases hk : k = jti
    · subst hk
      simp only [if_true, Option.some.injEq, exists_eq_left']
      split
      next hu => simp [hu]
      next hu => simp [hn, Ne.symm hu]
    · rw [if_neg hk, ← hs.mem_iff]
      split
      next => simp [hk]
      next => rfl
  nodup := by
    intro u
    rw [members_enter hs.indexKeyed]
    split
    next => exact List.nodup_cons.2 ⟨by simp, (hs.nodup u).filter _⟩
    next => exact hs.nodup u
  inhabited := by
    intro u
    simp only [SessionStore.enter, Table.get?_alter _ _ _ hs.indexKeyed]
    split
    next => simp
    next => exact hs.inhabited u

/-- To enter what was not there and to remove it again is to do nothing. -/
theorem Indexed.remove_enter (hs : s.Indexed) (hj : s.records.get? jti = none) (e : Expiring Session) :
    (s.enter jti e).remove jti = s := by
  have hr : (s.records.insert jti e).erase jti = s.records := Table.erase_insert hj e
  have hi : (s.index.alter (fun m => some (jti :: (m.getD []).filter (· ≠ jti))) e.value.userId).alter
      (fun m => (m.map (·.filter (· ≠ jti))).filter (· ≠ [])) e.value.userId = s.index := by
    rw [Table.alter_alter (fun _ => rfl)]
    refine Table.alter_eq_self ?_
    have hn := hs.not_mem_members hj e.value.userId
    have hne := hs.inhabited e.value.userId
    rw [members] at hn
    cases hg : s.index.get? e.value.userId with
    | none => simp
    | some m =>
      rw [hg] at hn hne
      have hm : ∀ k ∈ m, k ≠ jti := fun k hk h => hn (h ▸ hk)
      simpa using And.intro hm fun h => hne (congrArg some h)
  rw [SessionStore.remove, get?_enter, if_pos rfl]
  exact congr (congrArg SessionStore.mk hr) hi

/-- What is left of a user's members where only these records are kept. -/
def keep (records : Table String (Expiring Session)) (members : List String) : Option (List String) :=
  if members.filter (fun jti => (records.get? jti).isSome) = [] then none
  else some (members.filter fun jti => (records.get? jti).isSome)

theorem index_purge (s : SessionStore) (now : Int) :
    (s.purge now).2.index = s.index.sift (keep (s.purge now).2.records) := by
  have h (r : Table String (Expiring Session)) (e : UserId × List String) :
      (if e.2.filter (fun jti => (r.get? jti).isSome) = [] then none
      else some (e.1, e.2.filter fun jti => (r.get? jti).isSome)) = (keep r e.2).map fun m => (e.1, m) := by
    unfold keep
    split
    next => rfl
    next => rfl
  exact congrArg (s.index.filterMap ·) (funext (h _))

theorem Indexed.purge (hs : s.Indexed) (now : Int) : (s.purge now).2.Indexed := by
  have hi := hs.indexKeyed
  have hm (u : UserId) : (s.purge now).2.members u =
      (s.members u).filter fun jti => ((s.purge now).2.records.get? jti).isSome := by
    rw [members, index_purge, Table.get?_sift hi, members]
    cases s.index.get? u with
    | none => rfl
    | some m =>
      rw [Option.bind_some, Option.getD_some, keep]
      split
      next h => rw [h]; rfl
      next => rfl
  refine {
    keyed := Table.nodup_keys_filter _ hs.keyed
    indexKeyed := ?_
    named := ?_
    mem_iff := ?_
    nodup := ?_
    inhabited := ?_ }
  · rw [index_purge]
    exact hi.sublist (Table.keys_sift_sublist _ _)
  · intro k e h
    exact hs.named ((get?_purge hs).1 h).1
  · intro u k
    rw [hm, List.mem_filter, hs.mem_iff, Option.isSome_iff_exists]
    constructor
    · rintro ⟨⟨e, he, hu⟩, e', h⟩
      obtain rfl : e' = e := Option.some.inj (((get?_purge hs).1 h).1.symm.trans he)
      exact ⟨e', h, hu⟩
    · rintro ⟨e, h, hu⟩
      exact ⟨⟨e, ((get?_purge hs).1 h).1, hu⟩, e, h⟩
  · intro u
    rw [hm]
    exact (hs.nodup u).filter _
  · intro u h
    rw [index_purge, Table.get?_sift hi, Option.bind_eq_some_iff] at h
    obtain ⟨m, -, h⟩ := h
    unfold keep at h
    split at h
    next => cases h
    next hne => exact hne (Option.some.inj h)

/-- Taking a session back succeeds while it is live; either way nothing is left of it. -/
theorem delete_eq (s : SessionStore) (now : Int) (jti : String) :
    s.delete now jti = (if (s.live? now jti).isSome then .ok () else .error .notFound, s.remove jti) := by
  unfold delete live? remove
  cases s.records.get? jti with
  | none => rfl
  | some e =>
    dsimp only
    rw [Option.bind_some, Expiring.live?]
    cases e.isExpired now <;> rfl

theorem create_eq (s : SessionStore) (x : Session) {ttl : Int} (hj : jti ≠ "")
    (ht : Instant.InCalendar (now + ttl)) :
    s.create now jti x ttl = (some (.ok ()), (s.remove jti).enter jti ⟨{ x with jti }, now + ttl⟩) := by
  simp only [create, if_neg hj, Expiring.until?, Instant.after?_of_inCalendar ht, Option.map_some]

/-- What was kept under the name is lost where the calendar ends too soon. -/
theorem create_eq_none (s : SessionStore) (x : Session) {ttl : Int} (hj : jti ≠ "")
    (ht : ¬Instant.InCalendar (now + ttl)) : s.create now jti x ttl = (none, s.remove jti) := by
  have hn : Instant.after? now ttl = none := if_neg ht
  simp only [create, if_neg hj, Expiring.until?, hn, Option.map_none]

theorem enter_of_create {x : Session} {ttl : Int} {a : Unit} {y : SessionStore}
    (h : s.create now jti x ttl = (some (.ok a), y)) :
    y = (s.remove jti).enter jti ⟨{ x with jti }, now + ttl⟩ := by
  unfold create at h
  split at h
  next => cases h
  next =>
    dsimp only at h
    split at h
    next => cases h
    next e he =>
      cases h
      obtain ⟨t, ht, rfl⟩ := Option.map_eq_some_iff.1 he
      rw [(Instant.after?_eq_some_iff.1 ht).1]

/-! Listing. -/

theorem prune_eq_remove (hs : s.Indexed) (h : jti ∈ s.members user) : prune user s jti = s.remove jti := by
  obtain ⟨e, he, rfl⟩ := hs.mem_iff.1 h
  rw [SessionStore.remove, he, prune]

theorem foldl_prune (hs : s.Indexed) {l : List String} (hl : ∀ jti ∈ l, jti ∈ s.members user) (hd : l.Nodup) :
    (l.foldl (prune user) s).Indexed ∧
      ∀ k, (l.foldl (prune user) s).records.get? k = if k ∈ l then none else s.records.get? k := by
  induction l generalizing s with
  | nil => exact ⟨hs, fun k => by simp⟩
  | cons j l ih =>
    obtain ⟨hj, hd⟩ := List.nodup_cons.1 hd
    have hl' : ∀ k ∈ l, k ∈ (s.remove j).members user := by
      intro k hk
      have hne : k ≠ j := fun e => hj (e ▸ hk)
      rw [members_remove hs]
      simpa [hne] using hl k (List.mem_cons_of_mem j hk)
    obtain ⟨hi, hg⟩ := ih (hs.remove j) hl' hd
    rw [List.foldl_cons, prune_eq_remove hs (hl j List.mem_cons_self)]
    refine ⟨hi, fun k => ?_⟩
    rw [hg, get?_remove]
    by_cases hk : k = j
    · simp [hk]
    · simp [hk]

theorem stale_spec (hs : s.Indexed) (now : Int) (user : UserId) :
    (∀ jti ∈ s.stale now user, jti ∈ s.members user) ∧ (s.stale now user).Nodup :=
  ⟨fun _ h => (List.mem_filter.1 h).1, (hs.nodup user).filter _⟩

theorem Indexed.list (hs : s.Indexed) (now : Int) (user : UserId) : (s.list now user).2.Indexed :=
  (foldl_prune hs (stale_spec hs now user).1 (stale_spec hs now user).2).1

/-- Listing drops the user's expired records, and nothing else. -/
theorem get?_list (hs : s.Indexed) {k : String} {e : Expiring Session} :
    (s.list now user).2.records.get? k = some e ↔
      s.records.get? k = some e ∧ (e.value.userId = user → now < e.expiresAt) := by
  rw [SessionStore.list, (foldl_prune hs (stale_spec hs now user).1 (stale_spec hs now user).2).2]
  have hstale (he : s.records.get? k = some e) :
      k ∈ s.stale now user ↔ ¬(e.value.userId = user → now < e.expiresAt) := by
    rw [stale, List.mem_filter, hs.mem_iff, live?, he]
    simp [Expiring.live?, Expiring.isExpired, and_comm]
  split
  next h =>
    simp only [reduceCtorEq, false_iff, not_and]
    exact fun he => (hstale he).1 h
  next h => exact ⟨fun he => ⟨he, Decidable.not_not.1 fun hn => h ((hstale he).2 hn)⟩, fun he => he.1⟩

theorem live?_list (hs : s.Indexed) {t : Int} (ht : now ≤ t) (k : String) :
    (s.list now user).2.live? t k = s.live? t k := by
  apply Option.ext
  intro x
  simp only [live?_eq_some_iff, get?_list hs]
  constructor
  · rintro ⟨e, ⟨he, -⟩, h⟩
    exact ⟨e, he, h⟩
  · rintro ⟨e, he, h, hx⟩
    exact ⟨e, ⟨he, fun _ => by omega⟩, h, hx⟩

theorem mem_list_iff (hs : s.Indexed) {x : Session} :
    x ∈ (s.list now user).1 ↔ ∃ jti, s.live? now jti = some x ∧ x.userId = user := by
  simp only [SessionStore.list, List.mem_mergeSort, List.mem_filterMap, hs.mem_iff]
  constructor
  · rintro ⟨jti, ⟨e, he, hu⟩, hx⟩
    obtain ⟨e', he', -, rfl⟩ := live?_eq_some_iff.1 hx
    rw [he, Option.some.injEq] at he'
    exact ⟨jti, hx, he' ▸ hu⟩
  · rintro ⟨jti, hx, hu⟩
    obtain ⟨e, he, -, rfl⟩ := live?_eq_some_iff.1 hx
    exact ⟨jti, ⟨e, he, hu⟩, hx⟩

theorem nodup_list (hs : s.Indexed) : ((s.list now user).1.map (·.jti)).Nodup := by
  have hp := (List.mergeSort_perm ((s.members user).filterMap (s.live? now))
    fun a b => decide (a.createdAt ≤ b.createdAt)).map (·.jti)
  have hsub : (((s.members user).filterMap (s.live? now)).map (·.jti)).Sublist (s.members user) := by
    induction s.members user with
    | nil => exact .slnil
    | cons k m ih =>
      rw [List.filterMap_cons]
      split
      next => exact ih.cons k
      next x hx =>
        rw [List.map_cons, hs.jti_eq_of_live? hx]
        exact ih.cons_cons k
  exact hp.nodup_iff.2 ((hs.nodup user).sublist hsub)

end SignIn.SessionStore
