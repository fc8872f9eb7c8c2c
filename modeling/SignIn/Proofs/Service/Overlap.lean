import Mathlib.Data.List.NodupEquivFin
import SignIn.Proofs.Passcode.Store
import SignIn.Proofs.Service.History
import SignIn.Proofs.Service.Newcomer

/-! Confirmations that overlap: what each of them has found, and what it takes away. -/

namespace SignIn

namespace Program

variable {src : Sources} {α β : Type} {l : List Asked}

section Rules

open Operation (ask say)

variable {r : Except ServiceError β}

theorem leads_done {a b : β} (h : Leads src (.done a) l (.done b)) : l = [] ∧ a = b := by
  cases l with
  | nil =>
    cases h
    exact ⟨rfl, rfl⟩
  | cons x l => cases h.1

theorem not_leads_halt {b : β} : ¬Leads src .halt l (.done b) := by
  intro h
  cases l with
  | nil => cases h
  | cons x l => cases h.1

theorem leads_ask {q : Query} {f : q.Reply → Operation β} (h : (ask q >>= f).run.Leads src l (.done r)) :
    ∃ x l' a, l = x :: l' ∧ x.query = q ∧ (World.answer src q x.world).1 = some a ∧ (f a).run.Leads src l' (.done r) := by
  cases l with
  | nil => cases h
  | cons x l =>
    obtain ⟨i, q', w⟩ := x
    obtain ⟨hq, h⟩ := h
    obtain rfl : q = q' := Option.some.inj hq
    change Leads src (Program.advance (World.answer src) (.call q fun a => (f a).run) w).1 l (.done r) at h
    rw [advance] at h
    rcases hx : World.answer src q w with ⟨_ | a, w'⟩ <;> rw [hx] at h
    · exact absurd h not_leads_halt
    · exact ⟨_, l, a, rfl, rfl, congrArg Prod.fst hx, h⟩

theorem leads_say {level : Level} {text : String} {f : Unit → Operation β}
    (h : (say level text >>= f).run.Leads src l (.done r)) : ∃ l', (f ()).run.Leads src l' (.done r) := by
  obtain ⟨_, l', _, -, -, -, h⟩ := leads_ask h
  exact ⟨l', h⟩

/-- What is refused does not succeed. -/
theorem not_leads_fails {op : Operation β} {e : ServiceError} (hf : op.Fails e) {b : β} :
    ¬op.run.Leads src l (.done (.ok b)) := by
  intro h
  induction hf generalizing l with
  | refuse e => cases (leads_done h).2
  | say level text _ ih =>
    obtain ⟨l', h⟩ := leads_say h
    exact ih h

theorem leads_codes {c : PasscodeCall} {refused : StoreError → Operation c.Answer} {f : c.Answer → Operation β}
    (h : (Operation.codes c refused >>= f).run.Leads src l (.done r)) :
    ∃ x l', l = x :: l' ∧ x.query = .codes c ∧
      ((∃ a, (x.world.codes.answer c x.world.now).1 = some (.ok a) ∧ (f a).run.Leads src l' (.done r)) ∨
        ∃ e, (x.world.codes.answer c x.world.now).1 = some (.error e) ∧ (refused e >>= f).run.Leads src l' (.done r)) := by
  rw [Operation.codes_eq, bind_assoc] at h
  obtain ⟨x, l', a, hl, hq, ha, h⟩ := leads_ask h
  refine ⟨x, l', hl, hq, ?_⟩
  cases a with
  | ok a => exact .inl ⟨a, ha, h⟩
  | error e => exact .inr ⟨e, ha, h⟩

theorem leads_accounts {c : AccountCall} {refused : RepositoryError → Operation c.Answer} {f : c.Answer → Operation β}
    (hf : ∀ e, ∃ y, (refused e).Fails y) {b : β} (h : (Operation.accounts c refused >>= f).run.Leads src l (.done (.ok b))) :
    ∃ x l' a, l = x :: l' ∧ (f a).run.Leads src l' (.done (.ok b)) := by
  rw [Operation.accounts_eq, bind_assoc] at h
  obtain ⟨x, l', a, hl, -, -, h⟩ := leads_ask h
  cases a with
  | ok a => exact ⟨x, l', a, hl, h⟩
  | error e =>
    obtain ⟨y, hy⟩ := hf e
    exact absurd h (not_leads_fails (hy.bind f))

end Rules

end Program

open Program Operation

/-- Who succeeds in confirming has found the code, and has taken it away afterwards. -/
theorem Service.leads_confirm {src : Sources} {c : Channel} {address code : String} {l : List Asked}
    (h : (Service.confirm c address code).run.Leads src l (.done (.ok ()))) :
    ∃ x y, [x, y].Sublist l ∧ x.query = .codes (.get c (Text.trim address)) ∧
      y.query = .codes (.delete c (Text.trim address)) ∧
      ∃ p, x.world.codes.live? x.world.now c (Text.trim address) = some p ∧ p.code = Text.trim code := by
  unfold Service.confirm at h
  cases ha : Text.filled? address with
  | none =>
    rw [ha] at h
    exact absurd h (not_leads_fails (.refuse _))
  | some a =>
    rw [ha] at h
    obtain ⟨rfl, -⟩ := Text.filled?_eq_some_iff.1 ha
    cases hc : Text.filled? code with
    | none =>
      rw [hc] at h
      exact absurd h (not_leads_fails (.refuse _))
    | some k =>
      rw [hc] at h
      obtain ⟨rfl, -⟩ := Text.filled?_eq_some_iff.1 hc
      dsimp only at h
      obtain ⟨x, l', rfl, hx, ⟨p, hp, h₁⟩ | ⟨e, -, h₁⟩⟩ := leads_codes h
      · by_cases hk : p.accepts (Text.trim code)
        · rw [if_neg (by simp [hk])] at h₁
          obtain ⟨u, l₁, user, rfl, h₂⟩ := leads_accounts (relays_unknownUser _).fails h₁
          obtain ⟨m, l₂, _, rfl, h₃⟩ := leads_accounts (relays_absentUser _).fails h₂
          rw [codes_eq, bind_assoc] at h₃
          obtain ⟨y, l₃, _, rfl, hy, -, -⟩ := leads_ask h₃
          exact ⟨x, y, ((List.nil_sublist l₃).cons_cons y |>.cons m |>.cons u).cons_cons x, hx, hy, p,
            PasscodeStore.get_eq_ok_iff.1 (Option.some.inj hp), of_decide_eq_true hk⟩
        · rw [if_pos (by simp [hk])] at h₁
          exact absurd h₁ (not_leads_fails (.say _ _ (.bind (.refuse _) _)))
      · cases e <;> exact absurd h₁ (not_leads_fails (.bind (.say _ _ (.refuse _)) _))

/-- A code is kept for an address of a channel. -/
def Asked.keeps (k : Channel × String) (x : Asked) : Prop :=
  ∃ p ttl, x.query = .codes (.save p ttl) ∧ (p.channel, p.address) = k ∧
    (x.world.codes.save x.world.now p ttl).1 = some (.ok ())

namespace World

variable {src : Sources} {k : Channel × String} {w w' : World Directory}

/-- What stands for an address is what stood there, if anything. -/
def Fades (k : Channel × String) (w w' : World Directory) : Prop :=
  w'.codes.get? k = w.codes.get? k ∨ w'.codes.get? k = none

theorem Fades.trans {w'' : World Directory} (h : Fades k w w') (h' : Fades k w' w'') : Fades k w w'' := by
  obtain h' | h' := h'
  · obtain h | h := h
    · exact .inl (h'.trans h)
    · exact .inr (h'.trans h)
  · exact .inr h'

theorem nodup_keys_answer (src : Sources) (q : Query) (h : (Table.keys w.codes).Nodup) :
    (Table.keys (World.answer src q w).2.codes).Nodup := by
  cases q with
  | codes c =>
    cases c with
    | save p ttl =>
      show (Table.keys (w.codes.save w.now p ttl).2).Nodup
      obtain hsave | ⟨e, hsave⟩ := w.codes.save_cases w.now p ttl <;> rw [hsave]
      · exact h
      · exact Table.nodup_keys_insert _ _ h
    | get c a => exact h
    | delete c a => exact Table.nodup_keys_erase _ h
    | purge => exact Table.nodup_keys_filter _ h
  | _ => exact h

theorem fades_answer {x : Asked} (h : (Table.keys x.world.codes).Nodup) (hk : ¬x.keeps k) :
    x.world.Fades k (World.answer src x.query x.world).2 := by
  obtain ⟨i, q, w⟩ := x
  cases q with
  | codes c =>
    cases c with
    | save p ttl =>
      show (w.codes.save w.now p ttl).2.get? k = w.codes.get? k ∨ _
      obtain hsave | ⟨e, hsave⟩ := w.codes.save_cases w.now p ttl
      · exact .inl (by rw [hsave])
      · have hne : k ≠ (p.channel, p.address) := fun hp => hk ⟨p, ttl, rfl, hp.symm, congrArg Prod.fst hsave⟩
        rw [hsave]
        exact .inl (Table.get?_insert_of_ne _ _ hne)
    | get c a => exact .inl rfl
    | delete c a =>
      show (w.codes.erase (c, a)).get? k = _ ∨ (w.codes.erase (c, a)).get? k = none
      rw [Table.get?_erase]
      split
      next => exact .inr rfl
      next => exact .inl rfl
    | purge =>
      show (w.codes.purge w.now).2.get? k = _ ∨ (w.codes.purge w.now).2.get? k = none
      rw [show (w.codes.purge w.now).2.get? k = _ from Table.get?_filter h _ _]
      cases w.codes.get? k with
      | none => exact .inl rfl
      | some e =>
        rw [Option.filter_some]
        split
        next => exact .inl rfl
        next => exact .inr rfl
  | _ => exact .inl rfl

end World

namespace Traffic

variable {s : Service} {src : Sources} {t : Traffic} {turns : List Turn} {k : Channel × String}

theorem nodup_keys_after (h : (Table.keys t.world.codes).Nodup) (turns : List Turn) :
    (Table.keys (t.after src turns).world.codes).Nodup ∧ ∀ x ∈ t.history src turns, (Table.keys x.world.codes).Nodup := by
  induction turns generalizing t with
  | nil => exact ⟨h, fun x hx => by cases hx⟩
  | cons turn turns ih =>
    cases hq : t.asked? turn with
    | none =>
      obtain ⟨d, hd⟩ := world_next_of_silent src hq
      rw [history_cons_of_silent hq]
      exact ih (hd ▸ h)
    | some x =>
      have hx : (Table.keys x.world.codes).Nodup := world_of_asked hq ▸ h
      rw [history_cons_of_asked hq]
      obtain ⟨hafter, hhistory⟩ := ih (world_next src hq ▸ World.nodup_keys_answer src x.query hx)
      exact ⟨hafter, List.forall_mem_cons.2 ⟨hx, hhistory⟩⟩

/-- Where no code is kept, what stands for an address is what stood there. -/
theorem fades_after (h : (Table.keys t.world.codes).Nodup) (hk : ∀ x ∈ t.history src turns, ¬x.keeps k) :
    t.world.Fades k (t.after src turns).world := by
  induction turns generalizing t with
  | nil => exact .inl rfl
  | cons turn turns ih =>
    cases hq : t.asked? turn with
    | none =>
      obtain ⟨d, hd⟩ := world_next_of_silent src hq
      rw [history_cons_of_silent hq] at hk
      have hfades : t.world.Fades k (t.next src turn).world := .inl (by rw [hd])
      exact hfades.trans (ih (hd ▸ h) hk)
    | some x =>
      have hx : (Table.keys x.world.codes).Nodup := world_of_asked hq ▸ h
      rw [history_cons_of_asked hq] at hk
      obtain ⟨hkx, hk⟩ := List.forall_mem_cons.1 hk
      have hfades : t.world.Fades k (t.next src turn).world := by
        rw [← world_of_asked hq, world_next src hq]
        exact World.fades_answer hx hkx
      exact hfades.trans (ih (world_next src hq ▸ World.nodup_keys_answer src x.query hx) hk)

/-- One of several calls finds a code when `m` questions have been asked before, and takes away what stands in its place
when `n` have been. -/
structure UsesUp (h : List Asked) (i : Nat) (k : Channel × String) (code : String) (m n : Nat) (e : Expiring Passcode) :
    Prop where
  lt : m < n
  found : ∃ w, h[m]? = some ⟨some i, .codes (.get k.1 k.2), w⟩ ∧ w.codes.get? k = some e ∧ w.now < e.expiresAt
  code_eq : e.value.code = code
  taken : ∃ w, h[n]? = some ⟨some i, .codes (.delete k.1 k.2), w⟩

/-- How codes are used up by calls that have asked `h` between them. -/
structure SpendsCodes (h : List Asked) (t : Traffic) : Prop where
  spent : ∀ {i : Nat} {p : Pending} {c address code}, t.calls[i]? = some p → p.call = .confirm c address code →
    p.succeeded → ∃ m n e, UsesUp h i (c, Text.trim address) (Text.trim code) m n e
  /-- only a code that was kept in the meantime is taken away in its place -/
  own : ∀ {i k code m n e}, UsesUp h i k code m n e → (∀ j x, m < j → j < n → h[j]? = some x → ¬x.keeps k) →
    ∀ x, h[n]? = some x → x.world.codes.get? k = some e ∨ x.world.codes.get? k = none
  /-- who comes later finds none but a code that was kept in the meantime -/
  once : ∀ {i i' k code code' m n m' n' e e'}, UsesUp h i k code m n e → UsesUp h i' k code' m' n' e' → n < m' →
    ∃ j x, n < j ∧ j < m' ∧ h[j]? = some x ∧ x.keeps k

theorem exists_positions {h : List Asked} {x y : Asked} (hs : [x, y].Sublist h) :
    ∃ m n : Nat, m < n ∧ h[m]? = some x ∧ h[n]? = some y := by
  obtain ⟨f, hf⟩ := List.sublist_iff_exists_orderEmbedding_getElem?_eq.1 hs
  exact ⟨f 0, f 1, f.strictMono Nat.zero_lt_one, (hf 0).symm, (hf 1).symm⟩

theorem exists_usesUp {v : World Directory} {calls : List Call} {i : Nat} {p : Pending} {c : Channel}
    {address code : String} (hp : ((start s v calls).after src turns).calls[i]? = some p)
    (hc : p.call = .confirm c address code) (hs : p.succeeded) :
    ∃ m n e, UsesUp ((start s v calls).history src turns) i (c, Text.trim address) (Text.trim code) m n e := by
  obtain ⟨hi, -⟩ := List.getElem?_eq_some_iff.1 hp
  rw [length_calls_after, start, List.length_map] at hi
  obtain ⟨call, hcall⟩ : ∃ call, calls[i]? = some call := ⟨_, List.getElem?_eq_getElem hi⟩
  have hp₀ : (start s v calls).calls[i]? = some (.begin s call) := by
    rw [start, List.getElem?_map, hcall]
    rfl
  obtain ⟨rest, hrest, hl⟩ := exists_leads hp₀ turns
  obtain rfl := Option.some.inj (hp.symm.trans hrest)
  obtain ⟨b, hb⟩ := Pending.succeeded_iff.1 hs
  obtain rfl : call = .confirm c address code := hc
  obtain rfl : rest = .done (.ok ()) := Program.eq_done_of_result? hb
  obtain ⟨x, y, hxy, hx, hy, q, hq, hcode⟩ := Service.leads_confirm hl
  -- What the call asked for itself stands in the same order among all that was asked.
  have hcaller (z : Asked) (hz : z ∈ [x, y]) : z.caller = some i :=
    of_decide_eq_true (List.mem_filter.1 (hxy.subset hz)).2
  obtain ⟨m, n, hmn, hm, hn⟩ := exists_positions (hxy.trans List.filter_sublist)
  obtain ⟨e, he, hlt, rfl⟩ := PasscodeStore.live?_eq_some_iff.1 hq
  refine ⟨m, n, e, hmn, ⟨x.world, ?_, he, hlt⟩, hcode, y.world, ?_⟩
  · rw [hm, ← hx, ← hcaller x List.mem_cons_self]
  · rw [hn, ← hy, ← hcaller y (List.mem_cons_of_mem _ List.mem_cons_self)]

/-- A code is good for those who look for it before the first of them takes it away. -/
theorem spends_codes {v : World Directory} (hv : (Table.keys v.codes).Nodup) (calls : List Call) (turns : List Turn) :
    SpendsCodes ((start s v calls).history src turns) ((start s v calls).after src turns) where
  spent hp hc hs := exists_usesUp hp hc hs
  own := by
    intro i k code m n e hu hk x hx
    obtain ⟨w, hm, he, -⟩ := hu.found
    obtain ⟨t', turns', ht', hx', hbetween⟩ := exists_between hm hx hu.lt
    have hnodup : (Table.keys w.codes).Nodup := (nodup_keys_after hv turns).2 _ (List.mem_of_getElem? hm)
    have hfades : t'.world.Fades k (t'.after src turns').world :=
      fades_after (ht' ▸ World.nodup_keys_answer src _ hnodup) fun z hz => by
        obtain ⟨j, hmj, hjn, hj⟩ := hbetween z hz
        exact hk j z hmj hjn hj
    rw [World.Fades, hx', ht'] at hfades
    rw [← he]
    exact hfades
  once := by
    intro i i' k code code' m n m' n' e e' hu hu' hlt
    by_contra hno
    obtain ⟨w, hn⟩ := hu.taken
    obtain ⟨w', hm', he', -⟩ := hu'.found
    obtain ⟨t', turns', ht', hx', hbetween⟩ := exists_between hn hm' hlt
    have hnodup : (Table.keys w.codes).Nodup := (nodup_keys_after hv turns).2 _ (List.mem_of_getElem? hn)
    have hfades : t'.world.Fades k (t'.after src turns').world :=
      fades_after (ht' ▸ World.nodup_keys_answer src _ hnodup) fun z hz hkz => by
        obtain ⟨j, hnj, hjm, hj⟩ := hbetween z hz
        exact hno ⟨j, z, hnj, hjm, hj, hkz⟩
    -- The first has left nothing there, and nothing has been put there since.
    have hgone : t'.world.codes.get? k = none := by
      rw [ht']
      exact Table.get?_erase_self _ _
    rw [World.Fades, hx', hgone, or_self] at hfades
    exact absurd (he'.symm.trans hfades) (Option.some_ne_none e')

end Traffic

namespace Sample

/-- A deployment with a code for Ada. -/
def coded : World Directory where
  now := 0
  accounts := ⟨[(1, ⟨1, none, some "ada@home", "Ada", "", 3, none, none, 0, 0⟩)], 2⟩
  codes := [((.email, "ada@home"), ⟨⟨"000007", .email, "ada@home", 1, 0, 600000⟩, 600000⟩)]

def confirmers : List Call :=
  [.confirm .email "ada@home" "000007", .confirm .email "ada@home" "000007", .sendCode .email "ada@home", confirms]

/-- The second to confirm is done, and another code has been sent, before the first goes on. -/
def overlapping : List Turn :=
  [.goOn 0] ++ .replicate 5 (.goOn 1) ++ .replicate 6 (.goOn 2) ++ .replicate 4 (.goOn 0) ++ .replicate 2 (.goOn 3)

theorem spends_codes_coded :
    Traffic.SpendsCodes ((Traffic.start service coded confirmers).history sources overlapping)
      ((Traffic.start service coded confirmers).after sources overlapping) :=
  Traffic.spends_codes (by decide) confirmers overlapping

/-- One code is good for two of them, and the one that is late takes away another, which is then good for nobody. -/
theorem confirmers_overlap :
    let t := (Traffic.start service coded confirmers).after sources overlapping
    t.calls.map Pending.succeeded = [true, true, true, false] ∧ t.world.codes = [] := by
  decide +kernel

end Sample
end SignIn
