import SignIn.Proofs.Account.Directory

/-! What calls make of a directory that starts empty, and how it takes in who is new. -/

namespace SignIn.Directory

variable {d d' : Directory} {now : Int} {u : NewUser}

/-- What a directory that starts empty has become after calls, each at its time. -/
def after (calls : List (Int × AccountCall)) : Directory := calls.foldl (fun d x => (d.answer x.2 x.1).2) {}

/-- Whoever is reached as `u` would be. -/
def Taken (d : Directory) (u : NewUser) (c : Channel) : Prop :=
  ∃ id v a, d.users.get? id = some v ∧ v.address c = some a ∧ u.address c = some a

/-- All that a call can make of a directory. -/
inductive Becomes (d : Directory) : Directory → Prop
  | same : Becomes d d
  | grown (now : Int) (u : NewUser) : d.nextId ≠ Int64.maxValue →
    (∀ id v c a, (id, v) ∈ d.users → u.address c = some a → v.address c ≠ some a) → Becomes d (d.grown now u)
  | changed (id : UserId) {f : User → User} : (∀ u : User, u.Same (f u)) → Becomes d (d.change id f).2

theorem becomes_answer (c : AccountCall) (now : Int) (d : Directory) : d.Becomes (d.answer c now).2 := by
  cases c with
  | create u =>
    rw [show (d.answer (.create u) now).2 = (d.create now u).2 from rfl]
    obtain ⟨e, h⟩ | h | ⟨h, -, hn, hu⟩ := create_cases d now u
    · rw [h]
      exact .same
    · rw [h]
      exact .same
    · rw [h]
      exact .grown now u hn hu
  | setPassword id hash => exact .changed id (User.same_setPassword · hash now)
  | markVerified id c => exact .changed id (User.same_verify · c now)
  | _ => exact .same

namespace Becomes

theorem lawful (h : d.Becomes d') (hd : d.Lawful) : d'.Lawful := by
  cases h with
  | same => exact hd
  | grown now u hn hu => exact hd.grown hn hu
  | changed id hf => exact hd.change id hf

theorem nextId (h : d.Becomes d') :
    d.nextId.toInt ≤ d'.nextId.toInt ∧ d'.nextId.toInt ≤ d.nextId.toInt + 1 := by
  cases h with
  | same => omega
  | grown now u hn hu =>
    rw [show (d.grown now u).nextId = d.nextId + 1 from rfl, toInt_next hn]
    omega
  | changed id hf =>
    rw [nextId_change]
    omega

end Becomes

theorem foldl_answer (hd : d.Lawful) (calls : List (Int × AccountCall)) :
    let d' := calls.foldl (fun d x => (d.answer x.2 x.1).2) d
    d'.Lawful ∧ d.nextId.toInt ≤ d'.nextId.toInt ∧ d'.nextId.toInt ≤ d.nextId.toInt + calls.length := by
  induction calls generalizing d with
  | nil => exact ⟨hd, by simp⟩
  | cons x calls ih =>
    have h := becomes_answer x.2 x.1 d
    obtain ⟨hd', hle, hge⟩ := ih (h.lawful hd)
    have hn := h.nextId
    rw [List.length_cons]
    refine ⟨hd', ?_, ?_⟩ <;> dsimp only [List.foldl_cons] <;> omega

theorem lawful_after (calls : List (Int × AccountCall)) : (after calls).Lawful := (foldl_answer .empty calls).1

theorem nextId_after_le (calls : List (Int × AccountCall)) : (after calls).nextId.toInt ≤ calls.length + 1 := by
  have h := (foldl_answer .empty calls).2.2
  have hone : (({} : Directory).nextId).toInt = 1 := rfl
  unfold after
  omega

/-- Numbers that are still to be given out never were. -/
theorem get?_after_of_prefix {calls calls' : List (Int × AccountCall)} (h : calls' <+: calls) :
    (after calls').users.get? (after calls).nextId = none := by
  obtain ⟨more, rfl⟩ := h
  have hle : (after calls').nextId.toInt ≤ (after (calls' ++ more)).nextId.toInt := by
    rw [show after (calls' ++ more) = _ from List.foldl_append ..]
    exact (foldl_answer (lawful_after calls') more).2.1
  cases hg : (after calls').users.get? (after (calls' ++ more)).nextId with
  | none => rfl
  | some v =>
    have hlt := Int64.lt_iff_toInt_lt.1 ((lawful_after calls').bounded hg)
    omega

/-! The users may be found in any order. -/

def Rearranges (d d' : Directory) : Prop := d.users.Perm d'.users ∧ d.nextId = d'.nextId

theorem Rearranges.get?_eq (h : d'.Rearranges d) (hd : d.Lawful) (id : UserId) :
    d'.users.get? id = d.users.get? id := by
  have hk : d'.users.keys.Nodup := (h.1.map _).nodup_iff.2 hd.keyed
  apply Option.ext
  intro u
  rw [Table.get?_eq_some_iff hk, Table.get?_eq_some_iff hd.keyed, h.1.mem_iff]

theorem Rearranges.lawful (h : d'.Rearranges d) (hd : d.Lawful) : d'.Lawful where
  keyed := (h.1.map _).nodup_iff.2 hd.keyed
  named hu := hd.named (h.get?_eq hd _ ▸ hu)
  bounded hu := h.2 ▸ hd.bounded (h.get?_eq hd _ ▸ hu)
  distinct hu hv := hd.distinct (h.get?_eq hd _ ▸ hu) (h.get?_eq hd _ ▸ hv)

theorem Rearranges.byAddress?_eq (h : d'.Rearranges d) (hd : d.Lawful) (c : Channel) (a : String) :
    d'.byAddress? c a = d.byAddress? c a := by
  apply Option.ext
  intro u
  rw [byAddress?_eq_some_iff (h.lawful hd), byAddress?_eq_some_iff hd, h.get?_eq hd]

theorem exists_of_clash? {v : User} {c : Channel} (h : clash? u v = some c) :
    ∃ a, v.address c = some a ∧ u.address c = some a := by
  have shared {x y : Option String} (hx : x.isSome ∧ y = x) : ∃ a, y = some a ∧ x = some a := by
    obtain ⟨a, ha⟩ := Option.isSome_iff_exists.1 hx.1
    exact ⟨a, hx.2.trans ha, ha⟩
  unfold clash? at h
  split at h
  next he =>
    cases h
    exact shared he
  next =>
    split at h
    next hp =>
      cases h
      exact shared hp
    next => cases h

theorem taken_of_create (hd : d.Lawful) {k : String}
    (h : (d.create now u).1 = some (.error (.uniqueViolation k))) :
    (role? u.roleId).isSome ∧ ∃ c, k = constraint c ∧ d.Taken u c := by
  unfold create at h
  split at h
  next => cases h
  next hr =>
    split at h
    next c hc =>
      cases h
      obtain ⟨⟨id, v⟩, hv, hcl⟩ := List.exists_of_findSome?_eq_some hc
      obtain ⟨a, ha, hua⟩ := exists_of_clash? hcl
      exact ⟨Option.isSome_iff_ne_none.2 hr, c, rfl, id, v, a, (Table.get?_eq_some_iff hd.keyed).2 hv, ha, hua⟩
    next =>
      split at h
      next => cases h
      next => cases h

theorem create_of_taken {c : Channel} (hr : (role? u.roleId).isSome) (h : d.Taken u c) :
    ∃ k, (d.create now u).1 = some (.error (.uniqueViolation k)) := by
  obtain ⟨id, v, a, hv, ha, hua⟩ := h
  cases hc : d.users.findSome? fun e => clash? u e.2 with
  | some c =>
    rw [create, if_neg (Option.isSome_iff_ne_none.1 hr), hc]
    exact ⟨_, rfl⟩
  | none =>
    have hn := List.findSome?_eq_none_iff.1 hc (id, v) (Table.mem_of_get?_eq_some hv)
    exact absurd ha (clash?_eq_none_iff.1 hn c a hua)

theorem stored_of_create {v : User} (h : (d.create now u).1 = some (.ok v)) :
    v = u.toUser d.nextId now ∧ (d.create now u).2 = d.grown now u := by
  obtain ⟨e, hc⟩ | hc | ⟨hc, -⟩ := create_cases d now u <;> rw [hc] at h ⊢
  · cases h
  · cases h
  · cases h
    exact ⟨rfl, rfl⟩

/-- How who is new is taken in, after `calls`. -/
structure Enrols (d : Directory) (calls : List (Int × AccountCall)) (now : Int) (u : NewUser) : Prop where
  violation_iff : (∃ k, (d.create now u).1 = some (.error (.uniqueViolation k))) ↔
    (role? u.roleId).isSome ∧ ∃ c, d.Taken u c
  names : ∀ {k}, (d.create now u).1 = some (.error (.uniqueViolation k)) → ∃ c, k = constraint c ∧ d.Taken u c
  unchanged : ∀ {e}, (d.create now u).1 = some (.error e) → (d.create now u).2 = d
  stored : ∀ {v}, (d.create now u).1 = some (.ok v) → v = u.toUser v.id now ∧
    ∀ id, (d.create now u).2.users.get? id = if id = v.id then some v else d.users.get? id
  unused : ∀ {v}, (d.create now u).1 = some (.ok v) → ∀ calls', calls' <+: calls →
    (after calls').users.get? v.id = none
  /-- where nothing is in the way, until there are no numbers left -/
  answers : (role? u.roleId).isSome → (∀ c, ¬d.Taken u c) → (∃ v, (d.create now u).1 = some (.ok v)) ∨
    d.create now u = (none, d) ∧ Int64.maxValue.toInt ≤ calls.length + 1

theorem enrols {calls : List (Int × AccountCall)} (h : d.Rearranges (after calls)) (now : Int) (u : NewUser) :
    d.Enrols calls now u := by
  have hd := h.lawful (lawful_after calls)
  refine {
    violation_iff := ⟨?_, ?_⟩
    names := fun hk => (taken_of_create hd hk).2
    unchanged := fun {e} he => ?_
    stored := fun {v} hv => ?_
    unused := fun {v} hv calls' hc => ?_
    answers := fun hr hfree => ?_ }
  · rintro ⟨k, hk⟩
    obtain ⟨hr, c, -, hc⟩ := taken_of_create hd hk
    exact ⟨hr, c, hc⟩
  · rintro ⟨hr, c, hc⟩
    exact create_of_taken hr hc
  · obtain ⟨e, h⟩ | h | ⟨h, -⟩ := create_cases d now u
    · rw [h]
    · rw [h]
    · rw [h] at he
      cases he
  · obtain ⟨rfl, hg⟩ := stored_of_create hv
    refine ⟨rfl, fun id => ?_⟩
    rw [hg]
    exact get?_grown d now u id
  · obtain ⟨rfl, -⟩ := stored_of_create hv
    rw [show (u.toUser d.nextId now).id = d.nextId from rfl, h.2]
    exact get?_after_of_prefix hc
  · have hu : ∀ id v c a, (id, v) ∈ d.users → u.address c = some a → v.address c ≠ some a :=
      fun id v c a hv hua hva => hfree c ⟨id, v, a, (Table.get?_eq_some_iff hd.keyed).2 hv, hva, hua⟩
    rw [create_eq_of_free hr hu]
    split
    next hn =>
      refine .inr ⟨rfl, ?_⟩
      have hle := nextId_after_le calls
      rwa [← h.2, hn] at hle
    next => exact .inl ⟨_, rfl⟩

end SignIn.Directory
