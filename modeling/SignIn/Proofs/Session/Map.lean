import SignIn.Proofs.Session.Index

/-! The indexed store of sessions answers as a plain map would, which keeps sessions under their names and nothing
else. -/

namespace SignIn

/-- The same elements in the same order of `f`; those that `f` does not tell apart may stand in any order. -/
def UpToTies {α : Type} (f : α → Int) (l l' : List α) : Prop := l.Perm l' ∧ l.map f = l'.map f

theorem UpToTies.of_sorted {α : Type} {f : α → Int} {l l' : List α} (hp : l.Perm l')
    (h : l.Pairwise fun a b => f a ≤ f b) (h' : l'.Pairwise fun a b => f a ≤ f b) : UpToTies f l l' := by
  have sorted {l : List α} (h : l.Pairwise fun a b => f a ≤ f b) : (l.map f).Pairwise (· ≤ ·) :=
    h.map f fun _ _ hab => hab
  exact ⟨hp, (hp.map f).eq_of_pairwise (fun _ _ _ _ => Int.le_antisymm) (sorted h) (sorted h')⟩

theorem UpToTies.map {α β : Type} {f : β → Int} (g : α → β) {l l' : List α}
    (h : UpToTies (fun a => f (g a)) l l') : UpToTies f (l.map g) (l'.map g) := by
  refine ⟨h.1.map g, ?_⟩
  rw [List.map_map, List.map_map]
  exact h.2

theorem Session.pairwise_mergeSort (l : List Session) :
    (l.mergeSort fun a b => a.createdAt ≤ b.createdAt).Pairwise fun a b => a.createdAt ≤ b.createdAt := by
  refine (List.pairwise_mergeSort (fun a b c h h' => ?_) (fun a b => ?_) l).imp of_decide_eq_true
  · exact decide_eq_true (Int.le_trans (of_decide_eq_true h) (of_decide_eq_true h'))
  · simpa using Int.le_total a.createdAt b.createdAt

/-- Listings of the same sessions, each with every session once and the oldest first. -/
theorem Session.upToTies_of_mem_iff {l l' : List Session} (hl : (l.map (·.jti)).Nodup) (hl' : (l'.map (·.jti)).Nodup)
    (h : ∀ x, x ∈ l ↔ x ∈ l') (hs : l.Pairwise fun a b => a.createdAt ≤ b.createdAt)
    (hs' : l'.Pairwise fun a b => a.createdAt ≤ b.createdAt) : UpToTies (·.createdAt) l l' := by
  have nodup {l : List Session} (h : (l.map (·.jti)).Nodup) : l.Nodup :=
    (List.pairwise_map.1 h).imp fun hne he => hne (congrArg Session.jti he)
  exact .of_sorted ((List.perm_ext_iff_of_nodup (nodup hl) (nodup hl')).2 h) hs hs'

/-- Sessions under their names. -/
abbrev SessionMap := Table String (Expiring Session)

namespace SessionMap

def create (m : SessionMap) (now : Int) (jti : String) (x : Session) (ttl : Int) :
    Except StoreError Unit × SessionMap :=
  if jti = "" then (.error (.internal "empty session key"), m)
  else (.ok (), m.insert jti ⟨{ x with jti }, now + ttl⟩)

def get (m : SessionMap) (now : Int) (jti : String) : Except StoreError Session :=
  match m.get? jti with
  | some e => if now < e.expiresAt then .ok e.value else .error .notFound
  | none => .error .notFound

/-- A user's live sessions, the oldest first. Their expired ones are dropped. -/
def list (m : SessionMap) (now : Int) (user : UserId) : List Session × SessionMap :=
  (((m.filter fun e => e.2.value.userId = user ∧ now < e.2.expiresAt).map (·.2.value)).mergeSort
      fun a b => a.createdAt ≤ b.createdAt,
    m.filter fun e => e.2.value.userId = user → now < e.2.expiresAt)

def delete (m : SessionMap) (now : Int) (jti : String) : Except StoreError Unit × SessionMap :=
  (match m.get? jti with
    | some e => if now < e.expiresAt then .ok () else .error .notFound
    | none => .error .notFound,
    m.erase jti)

def purge (m : SessionMap) (now : Int) : Nat × SessionMap :=
  ((m.filter fun e => e.2.expiresAt ≤ now).length, m.filter fun e => now < e.2.expiresAt)

def answer (c : SessionCall) (now : Int) (m : SessionMap) : Except StoreError c.Answer × SessionMap :=
  match c with
  | .create jti x ttl => m.create now jti x ttl
  | .get jti => (m.get now jti, m)
  | .list user => (m.list now user).map .ok id
  | .delete jti => m.delete now jti
  | .purge => (m.purge now).map .ok id

/-- What a map that starts empty holds after calls, each at its time. -/
def after (calls : List (Int × SessionCall)) : SessionMap := calls.foldl (fun m x => (answer x.2 x.1 m).2) []

variable {m : SessionMap} {now : Int} {user : UserId}

theorem pairwise_list (m : SessionMap) (now : Int) (user : UserId) :
    (m.list now user).1.Pairwise fun a b => a.createdAt ≤ b.createdAt := Session.pairwise_mergeSort _

theorem mem_list_iff (hm : m.keys.Nodup) {x : Session} :
    x ∈ (m.list now user).1 ↔
      ∃ jti, (∃ e, m.get? jti = some e ∧ now < e.expiresAt ∧ e.value = x) ∧ x.userId = user := by
  simp only [list, List.mem_mergeSort, List.mem_map, List.mem_filter, decide_eq_true_eq, Table.get?_eq_some_iff hm]
  constructor
  · rintro ⟨e, ⟨he, hu, ht⟩, rfl⟩
    exact ⟨e.1, ⟨e.2, he, ht, rfl⟩, hu⟩
  · rintro ⟨jti, ⟨e, he, ht, rfl⟩, hu⟩
    exact ⟨(jti, e), ⟨he, hu, ht⟩, rfl⟩

theorem nodup_list (hm : m.keys.Nodup) (hn : ∀ {jti e}, m.get? jti = some e → e.value.jti = jti) :
    ((m.list now user).1.map (·.jti)).Nodup := by
  have hk {l : SessionMap} (hl : l.Sublist m) : (l.map (·.2.value)).map (·.jti) = l.keys := by
    rw [List.map_map]
    exact List.map_congr_left fun e he => hn ((Table.get?_eq_some_iff hm).2 (hl.subset he))
  rw [list, ((List.mergeSort_perm _ _).map _).nodup_iff, hk List.filter_sublist]
  exact Table.nodup_keys_filter _ hm

end SessionMap

namespace SessionCall

/-- The calendar has the deadline of what is to be kept. -/
def Timely (now : Int) : SessionCall → Prop
  | .create _ _ ttl => Instant.InCalendar (now + ttl)
  | _ => True

/-- Answers that differ in the order of sessions of one instant at most. -/
inductive Alike : (c : SessionCall) → Except StoreError c.Answer → Except StoreError c.Answer → Prop
  | same {c} (a) : Alike c a a
  | listed {user l l'} : UpToTies (·.createdAt) l l' → Alike (.list user) (.ok l) (.ok l')

end SessionCall

namespace SessionStore

variable {s : SessionStore} {now : Int} {user : UserId} {jti : String}

/-- The records without the index. -/
def bare (s : SessionStore) : SessionMap := s.records

/-- What a store that starts empty holds after calls, each at its time. -/
def after (calls : List (Int × SessionCall)) : SessionStore := calls.foldl (fun s x => (answer x.2 x.1 s).2) {}

/-! The records, whatever is done to the index. -/

theorem records_remove (s : SessionStore) (jti : String) : (s.remove jti).records = s.records.erase jti := by
  unfold remove
  split
  next h => exact (Table.erase_of_get?_eq_none h).symm
  next => rfl

theorem records_enter_remove (s : SessionStore) (jti : String) (e : Expiring Session) :
    ((s.remove jti).enter jti e).records = s.records.insert jti e := by
  rw [enter, records_remove, Table.insert, Table.insert, Table.erase, Table.erase, List.filter_filter]
  simp only [Bool.and_self]

theorem records_foldl_prune (s : SessionStore) (l : List String) :
    (l.foldl (prune user) s).records = s.records.filter fun e => e.1 ∉ l := by
  induction l generalizing s with
  | nil => exact (List.filter_eq_self.2 fun _ _ => rfl).symm
  | cons j l ih =>
    rw [List.foldl_cons, ih, prune, unindex, Table.erase, List.filter_filter]
    refine List.filter_congr fun e _ => ?_
    simp only [List.mem_cons, not_or, Bool.decide_and, Bool.and_comm]

/-- Listing drops of the records the user's expired ones. -/
theorem records_list (hs : s.Indexed) :
    (s.list now user).2.records = s.records.filter fun e => e.2.value.userId = user → now < e.2.expiresAt := by
  rw [list, records_foldl_prune]
  refine List.filter_congr fun e he => decide_eq_decide.2 ?_
  have hg : s.records.get? e.1 = some e.2 := (Table.get?_eq_some_iff hs.keyed).2 he
  rw [stale, List.mem_filter, hs.mem_iff, live?, hg]
  simp [Expiring.live?, Expiring.isExpired]

theorem pairwise_list (s : SessionStore) (now : Int) (user : UserId) :
    (s.list now user).1.Pairwise fun a b => a.createdAt ≤ b.createdAt := Session.pairwise_mergeSort _

theorem live?_eq_bind (s : SessionStore) (now : Int) (jti : String) :
    s.live? now jti = (s.bare.get? jti).bind fun e => if now < e.expiresAt then some e.value else none := by
  unfold live? bare
  congr
  funext e
  by_cases h : now < e.expiresAt
  · simp [Expiring.live?, Expiring.isExpired, h, Int.not_le.2 h]
  · simp [Expiring.live?, Expiring.isExpired, h, Int.not_lt.1 h]

theorem get_bare (s : SessionStore) (now : Int) (jti : String) : s.get now jti = s.bare.get now jti := by
  rw [get, live?_eq_bind, SessionMap.get]
  cases s.bare.get? jti with
  | none => rfl
  | some e => by_cases h : now < e.expiresAt <;> simp only [h, Option.bind_some, if_true, if_false]

theorem delete_bare (s : SessionStore) (now : Int) (jti : String) :
    (s.delete now jti).1 = (s.bare.delete now jti).1 ∧ (s.delete now jti).2.bare = (s.bare.delete now jti).2 := by
  rw [delete_eq, live?_eq_bind, SessionMap.delete]
  refine ⟨?_, records_remove s jti⟩
  cases s.bare.get? jti with
  | none => rfl
  | some e => by_cases h : now < e.expiresAt <;> simp [h]

theorem purge_bare (s : SessionStore) (now : Int) :
    (s.purge now).1 = (s.bare.purge now).1 ∧ (s.purge now).2.bare = (s.bare.purge now).2 := by
  have hk : (s.records.filter fun e => !e.2.isExpired now) = s.records.filter fun e => now < e.2.expiresAt :=
    List.filter_congr fun e _ => by
      rw [Expiring.isExpired, ← decide_not, decide_eq_decide]
      exact Int.not_le
  have hl := s.records.length_eq_countP_add_countP fun e => decide (e.2.expiresAt ≤ now)
  simp only [List.countP_eq_length_filter, decide_eq_true_eq, Int.not_le] at hl
  refine ⟨?_, hk⟩
  simp only [purge, SessionMap.purge, bare, hk]
  omega

/-- The index has no part in what is listed, but for the order of sessions that were opened at once. -/
theorem list_bare (hs : s.Indexed) (now : Int) (user : UserId) :
    UpToTies (·.createdAt) (s.list now user).1 (s.bare.list now user).1 ∧
      (s.list now user).2.bare = (s.bare.list now user).2 := by
  have hk : s.bare.keys.Nodup := hs.keyed
  refine ⟨Session.upToTies_of_mem_iff (nodup_list hs) (SessionMap.nodup_list hk hs.named) (fun x => ?_)
    (pairwise_list _ _ _) (SessionMap.pairwise_list _ _ _), records_list hs⟩
  rw [mem_list_iff hs, SessionMap.mem_list_iff hk]
  simp only [live?_eq_some_iff, bare]

theorem create_bare (s : SessionStore) (x : Session) {ttl : Int} (ht : Instant.InCalendar (now + ttl)) :
    (s.create now jti x ttl).1 = some (s.bare.create now jti x ttl).1 ∧
      (s.create now jti x ttl).2.bare = (s.bare.create now jti x ttl).2 := by
  unfold SessionMap.create
  by_cases hj : jti = ""
  · rw [create, if_pos hj, if_pos hj]
    exact ⟨rfl, rfl⟩
  · rw [create_eq s x hj ht, if_neg hj]
    exact ⟨rfl, records_enter_remove _ _ _⟩

theorem Indexed.create (hs : s.Indexed) (x : Session) {ttl : Int} (ht : Instant.InCalendar (now + ttl)) :
    (s.create now jti x ttl).2.Indexed := by
  by_cases hj : jti = ""
  · rw [SessionStore.create, if_pos hj]
    exact hs
  · rw [create_eq s x hj ht]
    refine (hs.remove jti).enter ?_ rfl
    rw [get?_remove, if_pos rfl]

/-- What a call does to the map that a store is without its index. -/
theorem answer_bare (hs : s.Indexed) {c : SessionCall} (hc : c.Timely now) :
    (∃ a, (s.answer c now).1 = some a ∧ c.Alike a (s.bare.answer c now).1) ∧
      (s.answer c now).2.bare = (s.bare.answer c now).2 ∧ (s.answer c now).2.Indexed := by
  cases c with
  | create jti x ttl =>
    obtain ⟨ha, hm⟩ : (s.create now jti x ttl).1 = _ ∧ _ := create_bare s x hc
    exact ⟨⟨_, ha, .same _⟩, hm, hs.create x hc⟩
  | get jti => exact ⟨⟨_, rfl, get_bare s now jti ▸ .same _⟩, rfl, hs⟩
  | list user =>
    obtain ⟨ha, hm⟩ := list_bare hs now user
    exact ⟨⟨_, rfl, .listed ha⟩, hm, hs.list now user⟩
  | delete jti =>
    obtain ⟨ha, hm⟩ := delete_bare s now jti
    refine ⟨⟨_, rfl, ha ▸ .same _⟩, hm, ?_⟩
    rw [answer, delete_eq]
    exact hs.remove jti
  | purge =>
    obtain ⟨ha, hm⟩ := purge_bare s now
    exact ⟨⟨_, rfl, congrArg Except.ok ha ▸ .same _⟩, hm, hs.purge now⟩

theorem after_bare {calls : List (Int × SessionCall)} (h : ∀ x ∈ calls, x.2.Timely x.1) :
    (after calls).bare = SessionMap.after calls ∧ (after calls).Indexed := by
  have hr {l : List (Int × SessionCall)} {s : SessionStore} (hl : ∀ x ∈ l, x.2.Timely x.1) (hs : s.Indexed) :
      (l.foldl (fun s x => (answer x.2 x.1 s).2) s).bare = l.foldl (fun m x => (SessionMap.answer x.2 x.1 m).2) s.bare ∧
        (l.foldl (fun s x => (answer x.2 x.1 s).2) s).Indexed := by
    induction l generalizing s with
    | nil => exact ⟨rfl, hs⟩
    | cons x l ih =>
      obtain ⟨-, hm, hi⟩ := answer_bare hs (hl x List.mem_cons_self)
      rw [List.foldl_cons, List.foldl_cons, ← hm]
      exact ih (fun y hy => hl y (List.mem_cons_of_mem x hy)) hi
  exact hr h .empty

/-- After any calls, at any times, a store answers the next call as a map does that keeps the sessions under their
names. Its index names each session under its owner, and no user without a session. -/
theorem answers_as_map {calls : List (Int × SessionCall)} (h : ∀ x ∈ calls, x.2.Timely x.1) :
    (∀ now (c : SessionCall), c.Timely now → ∃ a, ((after calls).answer c now).1 = some a ∧
      c.Alike a ((SessionMap.after calls).answer c now).1) ∧
    (∀ now user, ∃ l, ((after calls).answer (.list user) now).1 = some (.ok l) ∧
      l.Pairwise (fun a b => a.createdAt ≤ b.createdAt) ∧ (l.map (·.jti)).Nodup ∧
      ∀ x, x ∈ l ↔ ∃ e, (SessionMap.after calls).get? x.jti = some e ∧ now < e.expiresAt ∧ e.value = x ∧
        x.userId = user) ∧
    (after calls).records = SessionMap.after calls ∧
    (∀ user jti, (∃ members, (after calls).index.get? user = some members ∧ jti ∈ members) ↔
      ∃ e, (after calls).records.get? jti = some e ∧ e.value.userId = user) ∧
    (∀ user, (after calls).index.get? user ≠ some []) ∧
    ∀ now x ttl, (after calls).answer (.create "" x ttl) now =
      (some (.error (.internal "empty session key")), after calls) := by
  obtain ⟨hm, hs⟩ := after_bare h
  refine ⟨fun now c hc => ?_, fun now user => ?_, hm, fun user jti => ?_, hs.inhabited, fun now x ttl => rfl⟩
  · rw [← hm]
    exact (answer_bare hs hc).1
  · refine ⟨((after calls).list now user).1, rfl, pairwise_list _ _ _, nodup_list hs, fun x => ?_⟩
    rw [mem_list_iff hs, ← hm]
    constructor
    · rintro ⟨jti, hx, hu⟩
      obtain ⟨e, he, ht, rfl⟩ := live?_eq_some_iff.1 hx
      exact ⟨e, (hs.named he).symm ▸ he, ht, rfl, hu⟩
    · rintro ⟨e, he, ht, hx, hu⟩
      exact ⟨x.jti, live?_eq_some_iff.2 ⟨e, he, ht, hx⟩, hu⟩
  · rw [← hs.mem_iff, members]
    cases (after calls).index.get? user with
    | none => simp
    | some m => simp

theorem answers_as_map_other_owner :
    let ada : Session := ⟨"", 1, 3, "curl", "::1", 0⟩
    let bob : Session := ⟨"", 2, 3, "curl", "::1", 5⟩
    let calls : List (Int × SessionCall) := [(0, .create "j" ada 1000), (5, .create "j" bob 1000)]
    (∀ x ∈ calls, x.2.Timely x.1) ∧
      ((after calls).answer (.get "j") 1004).1 = some (.ok { bob with jti := "j" }) ∧
      ((after calls).answer (.list 1) 1004).1 = some (.ok []) ∧
      ∀ members, (after calls).index.get? 1 = some members → "j" ∉ members := by
  intro ada bob calls
  have timely : ∀ x ∈ calls, x.2.Timely x.1 := by
    simp only [calls, List.forall_mem_cons, SessionCall.Timely]
    exact ⟨by decide, by decide, nofun⟩
  obtain ⟨answers, lists, records, named, -⟩ := answers_as_map timely
  have kept : SessionMap.after calls = [("j", ⟨{ bob with jti := "j" }, 1005⟩)] := by decide
  have owner {jti e} (h : (SessionMap.after calls).get? jti = some e) : e.value.userId = 2 := by
    rw [kept, Table.get?_cons] at h
    split at h
    next =>
      cases h
      rfl
    next => cases h
  refine ⟨timely, ?_, ?_, fun members hm hj => ?_⟩
  · obtain ⟨a, ha, hl⟩ := answers 1004 (.get "j") trivial
    rw [ha]
    cases hl
    rfl
  · obtain ⟨l, hl, -, -, hmem⟩ := lists 1004 1
    have hnil : l = [] := List.eq_nil_iff_forall_not_mem.2 fun x hx => by
      obtain ⟨e, he, -, rfl, hu⟩ := (hmem x).1 hx
      exact absurd ((owner he).symm.trans hu) (by decide)
    rw [hl, hnil]
  · obtain ⟨e, he, hu⟩ := (named 1 "j").1 ⟨members, hm, hj⟩
    rw [records] at he
    exact absurd ((owner he).symm.trans hu) (by decide)

end SessionStore
end SignIn
