import SignIn.Proofs.Passcode.Store
import SignIn.Proofs.Service.Newcomer

/-! Which codes are accepted: for each address the latest that was sent there, once and in time. -/

namespace SignIn

/-- A code, where it was sent and how long it is good. -/
structure Slip where
  channel : Channel
  address : String
  code : String
  expiresAt : Int
  deriving DecidableEq

namespace Call

/-- Where a call is to send a code. -/
def recipient? : Call → Option (Channel × String)
  | .register r => do
    let c ← (Channel.ofName (Text.trim r.confirmBy)).toOption
    let a ← r.address? c
    return (c, Text.trim a)
  | .sendCode c a => some (c, Text.trim a)
  | _ => none

/-- The deadline that a caller is told. -/
def deadline? : (c : Call) → c.Answer → Option Int
  | .register _, a => some a.codeExpiresAt
  | .sendCode .., a => some a.expiresAt
  | _, _ => none

def sent? (src : Sources) (draws : Nat) (c : Call) : Option (Except ServiceError c.Answer) → Option Slip :=
  succeeded? fun a => do
    let x ← c.recipient?
    let t ← c.deadline? a
    return ⟨x.1, x.2, Passcode.codeText (src.codes draws), t⟩

/-- The address that a call is to confirm. -/
def claimed? : Call → Option (Channel × String)
  | .confirm c a _ => some (c, Text.trim a)
  | _ => none

def confirmed? (c : Call) : Option (Except ServiceError c.Answer) → Option (Channel × String) :=
  succeeded? fun _ => c.claimed?

end Call

namespace Step

variable (s : Service) (src : Sources) (r : Step)

/-- The code that was sent, if the call was to send one and succeeded. -/
def sent? : Option Slip := r.call.sent? src r.before.draws (r.answer s src)

/-- The address that was confirmed, if the call was to confirm one and succeeded. -/
def confirmed? : Option (Channel × String) := r.call.confirmed? (r.answer s src)

end Step

/-- The latest code for an address, unless it was used up. -/
def outstanding? (s : Service) (src : Sources) : List Step → Channel → String → Option Slip
  | [], _, _ => none
  | r :: past, c, a =>
    match (r.sent? s src).filter fun x => x.channel = c ∧ x.address = a with
    | some x => some x
    | none => if r.confirmed? s src = some (c, a) then none else outstanding? s src past c a

namespace PasscodeStore

def code? (s : PasscodeStore) (now : Int) (c : Channel) (a : String) : Option String :=
  (s.live? now c a).map (·.code)

end PasscodeStore

theorem Call.recipient?_of_form {r : Registration} {f : Form} (h : r.form = .ok f) :
    Call.recipient? (.register r) = some (f.channel, f.address) := by
  have g := Registration.gives_of_form h
  have ha := g.address
  rw [g.reached] at ha
  obtain ⟨a, ha, hf⟩ := Option.bind_eq_some_iff.1 ha
  simp [recipient?, g.channel, Except.toOption, ha, (Text.filled?_eq_some_iff.1 hf).1]

theorem Holdings.code?_sent {s : Service} {src : Sources} {w : Holdings} {channel : Channel} {address : String}
    {p : Passcode} (hp : w.Sends s src channel address p) (t : Int) (c : Channel) (a : String) :
    (w.sent s p).codes.code? t c a =
      if (c, a) = (channel, Text.trim address) then
        (if t < w.now + s.codeTtl then some (Passcode.codeText (src.codes w.draws)) else none)
      else w.codes.code? t c a := by
  have ha : p.address = Text.trim address := (Text.filled?_eq_some_iff.1 hp.filled).1
  rw [PasscodeStore.code?, sent, PasscodeStore.live?_insert, hp.channel_eq, ha]
  split
  next =>
    simp only [Expiring.live?, Expiring.isExpired, hp.expiresAt, decide_eq_true_eq]
    by_cases ht : t < w.now + s.codeTtl
    · rw [if_neg (Int.not_le.2 ht), if_pos ht, Option.map_some, hp.code]
    · rw [if_pos (Int.not_lt.1 ht), if_neg ht, Option.map_none]
  next => rfl

namespace Effect

variable {s : Service} {src : Sources} {w w' : Holdings} {c : Call} {answer : Option (Except ServiceError c.Answer)}

/-- A call sends what it says, uses up what it confirms, and leaves all other codes alone. -/
theorem code?_eq (h : Effect s src w c answer w') (t : Int) (channel : Channel) (address : String) :
    w'.codes.code? t channel address =
      match (c.sent? src w.draws answer).filter fun x => x.channel = channel ∧ x.address = address with
      | some x => if t < x.expiresAt then some x.code else none
      | none =>
        if c.confirmed? answer = some (channel, address) then none else w.codes.code? t channel address := by
  have key {c : Channel} {a : String} (x : String) (d : Int) :
      (some (⟨c, a, x, d⟩ : Slip)).filter (fun x => x.channel = channel ∧ x.address = address) =
        if (channel, address) = (c, a) then some ⟨c, a, x, d⟩ else none := by
    simp only [Option.filter_some, decide_eq_true_eq, Prod.mk.injEq, eq_comm (a := channel), eq_comm (a := address)]
  cases h with
  | @registered r f role p hf _ _ hp =>
    have ha : Text.trim f.address = f.address :=
      (Text.filled?_eq_some_iff.1 (Registration.filled?_of_form hf (Registration.gives_of_form hf).address)).1.symm
    rw [Holdings.code?_sent hp, ha]
    simp only [Call.sent?, Call.succeeded?, Call.recipient?_of_form hf, Call.deadline?, Option.bind_eq_bind,
      Option.bind_some, Option.pure_def, key]
    split
    next => rfl
    next => rfl
  | sent hp =>
    rw [Holdings.code?_sent hp]
    simp only [Call.sent?, Call.succeeded?, Call.recipient?, Call.deadline?, Option.bind_eq_bind,
      Option.bind_some, Option.pure_def, key]
    split
    next => rfl
    next => rfl
  | confirmed ha =>
    rw [PasscodeStore.code?, Holdings.confirmed, PasscodeStore.live?_delete, (Text.filled?_eq_some_iff.1 ha).1]
    simp only [Call.sent?, Call.succeeded?, Call.recipient?, Call.confirmed?, Call.claimed?, Option.bind_eq_bind,
      Option.bind_none, Option.filter_none, Option.some.injEq, eq_comm (b := (channel, address))]
    split
    next => rfl
    next => rfl
  | stranded _ _ _ _ hn =>
    rw [Call.sent?, Call.confirmed?, Call.succeeded?_eq_none hn, Call.succeeded?_eq_none hn]
    rfl
  | _ => rfl

theorem expiresAt_of_sent (h : Effect s src w c answer w') {x : Slip} (hx : c.sent? src w.draws answer = some x) :
    x.expiresAt = w.now + s.codeTtl := by
  cases h with
  | registered hf =>
    rw [Call.sent?, Call.recipient?_of_form hf] at hx
    cases hx
    rfl
  | sent hp =>
    cases hx
    rfl
  | stranded _ _ _ _ hn => cases (Call.succeeded?_eq_none hn _).symm.trans hx
  | _ => cases hx

theorem confirmed_spec {channel : Channel} {address code : String}
    (h : Effect s src w (.confirm channel address code) (some (.ok ())) w') :
    w.codes.code? w.now channel (Text.trim address) = some (Text.trim code) := by
  cases h with
  | confirmed ha hc hl hp =>
    rw [PasscodeStore.code?, ← (Text.filled?_eq_some_iff.1 ha).1, hl, ← (Text.filled?_eq_some_iff.1 hc).1, ← hp]
    rfl

end Effect

variable {s : Service} {src : Sources} {past : List Step} {w : World Directory}

theorem Step.sent?_code {r : Step} {x : Slip} (h : r.sent? s src = some x) :
    ∃ n, x.code = Passcode.codeText n := by
  unfold sent? Call.sent? Call.succeeded? at h
  split at h
  next =>
    obtain ⟨y, -, h⟩ := Option.bind_eq_some_iff.1 h
    obtain ⟨t, -, h⟩ := Option.bind_eq_some_iff.1 h
    cases h
    exact ⟨_, rfl⟩
  next => cases h

theorem sent_of_outstanding? {c : Channel} {a : String} {x : Slip} (h : outstanding? s src past c a = some x) :
    ∃ r ∈ past, r.sent? s src = some x := by
  induction past with
  | nil => cases h
  | cons r past ih =>
    rw [outstanding?] at h
    split at h
    next y hy =>
      cases h
      exact ⟨r, List.mem_cons_self, (Option.filter_eq_some_iff.1 hy).1⟩
    next =>
      split at h
      next => cases h
      next =>
        obtain ⟨r', hr', hx⟩ := ih h
        exact ⟨r', List.mem_cons_of_mem _ hr', hx⟩

/-- The store holds, for now and later, what the history tells. -/
theorem Run.code?_eq {moves : Int → Prop} {t₀ : Int} (h : Run s src moves (.fresh t₀) past w)
    (hm : ∀ d, moves d → 0 ≤ d) {t : Int} (ht : w.now ≤ t) (c : Channel) (a : String) :
    w.codes.code? t c a =
      (outstanding? s src past c a).bind fun x => if t < x.expiresAt then some x.code else none := by
  -- at all later instants at once, for the clock moves while the store stays as it is
  induction h with
  | start => rfl
  | @call past w call _ ih =>
    have e := Step.effect s src ⟨w, call⟩
    have hc : (w.perform s src call).2.codes.code? t c a =
        match (Step.sent? s src ⟨w, call⟩).filter fun x => x.channel = c ∧ x.address = a with
        | some x => if t < x.expiresAt then some x.code else none
        | none => if Step.confirmed? s src ⟨w, call⟩ = some (c, a) then none else w.codes.code? t c a :=
      e.code?_eq t c a
    rw [hc, outstanding?]
    cases (Step.sent? s src ⟨w, call⟩).filter fun x => x.channel = c ∧ x.address = a with
    | some x => rfl
    | none =>
      dsimp only
      split
      next => rfl
      next => exact ih (w.now_perform s src call ▸ ht)
  | @sweep past w h ih =>
    rw [World.now_swept] at ht
    rw [World.codes_swept, PasscodeStore.code?, PasscodeStore.live?_purge h.owned.keyed ht]
    exact ih ht
  | settle _ ih =>
    rw [World.now_settled] at ht
    rw [World.codes_settled]
    exact ih ht
  | @move past w d hd _ ih =>
    have hd := hm d hd
    have ht : w.now + d ≤ t := ht
    exact ih (by omega)

/-- An address with a code out belongs to somebody. -/
theorem Run.owner_of_code? {moves : Int → Prop} {t₀ : Int} (h : Run s src moves (.fresh t₀) past w) {c : Channel}
    {a x : String} (hx : w.codes.code? w.now c a = some x) :
    Text.filled? a = some a ∧ ∃ u, w.accounts.byAddress? c a = some u ∧ w.accounts.users.get? u.id = some u := by
  obtain ⟨p, hp, -⟩ := Option.map_eq_some_iff.1 hx
  obtain ⟨e, he, -⟩ := PasscodeStore.live?_eq_some_iff.1 hp
  obtain ⟨u, hu, ha⟩ := h.owned.owner he
  have hid := h.lawful.named hu
  exact ⟨h.trimmed _ _ _ _ hu ha, u, (Directory.byAddress?_eq_some_iff h.lawful).2 ⟨hid ▸ hu, ha⟩, hid ▸ hu⟩

theorem Run.code?_eq_some_iff {moves : Int → Prop} {t₀ : Int} (h : Run s src moves (.fresh t₀) past w)
    (hm : ∀ d, moves d → 0 ≤ d) {c : Channel} {a code : String} :
    w.codes.code? w.now c a = some code ↔
      ∃ x, outstanding? s src past c a = some x ∧ x.code = code ∧ w.now < x.expiresAt := by
  rw [h.code?_eq hm (Int.le_refl _), Option.bind_eq_some_iff]
  refine exists_congr fun x => and_congr_right fun _ => ?_
  split
  next ht => simp [ht]
  next ht => simp [ht]

theorem Run.isSome_code?_iff {moves : Int → Prop} {t₀ : Int} (h : Run s src moves (.fresh t₀) past w)
    (hm : ∀ d, moves d → 0 ≤ d) {c : Channel} {a : String} :
    (w.codes.code? w.now c a).isSome ↔ ∃ x, outstanding? s src past c a = some x ∧ w.now < x.expiresAt := by
  rw [Option.isSome_iff_exists]
  constructor
  · rintro ⟨y, hy⟩
    obtain ⟨x, hx, -, ht⟩ := (h.code?_eq_some_iff hm).1 hy
    exact ⟨x, hx, ht⟩
  · rintro ⟨x, hx, ht⟩
    exact ⟨x.code, (h.code?_eq_some_iff hm).2 ⟨x, hx, rfl, ht⟩⟩

namespace Holdings

variable {w : Holdings} {channel : Channel} {address code : String} {u : User}

/-- The code that is out confirms its address. -/
theorem confirm_of_code? (hx : w.codes.code? w.now channel (Text.trim address) = some (Text.trim code))
    (ha : Text.trim address ≠ "") (hc : Text.trim code ≠ "")
    (hu : w.accounts.byAddress? channel (Text.trim address) = some u) (hid : w.accounts.users.get? u.id = some u) :
    (exec src (Service.confirm channel address code) w).1 = some (.ok ()) := by
  obtain ⟨p, hp, hpc⟩ := Option.map_eq_some_iff.1 hx
  have hcode : Text.filled? code = some p.code := Text.filled?_eq_some_iff.2 ⟨hpc, hpc ▸ hc⟩
  rw [exec_confirm_of_live? (Text.filled?_eq_some_iff.2 ⟨rfl, ha⟩) hcode hp hu hid]

/-- Whoever has the address is sent a code, unless one is out. -/
theorem sendCode_of_owner (s : Service) (ha : Text.trim address ≠ "")
    (hu : w.accounts.byAddress? channel (Text.trim address) = some u) (hc : Instant.InCalendar (w.now + s.codeTtl)) :
    (exec src (s.sendCode channel address) w).1 =
      if (w.codes.code? w.now channel (Text.trim address)).isSome then some (.error .alreadyOutstanding)
      else some (.ok ⟨w.now + s.codeTtl⟩) := by
  rw [exec_sendCode, Text.filled?_eq_some_iff.2 ⟨rfl, ha⟩]
  dsimp only
  rw [hu]
  dsimp only
  rw [Passcode.draw?_eq_some_iff.2 ⟨hc, rfl⟩, PasscodeStore.code?, Option.isSome_map]
  dsimp only
  split
  next => rfl
  next => rfl

end Holdings

/-- A code is accepted if it is the latest that was sent to the address, was not used up and is in time. While that one
is out no other is sent, and once it is not, whoever has the address is sent another. -/
theorem accepts_codes {t₀ : Int} (h : Run s src (0 ≤ ·) (.fresh t₀) past w) (channel : Channel)
    (address code : String) :
    ((w.perform s src (.confirm channel address code)).1 = some (.ok ()) ↔
      ∃ x, outstanding? s src past channel (Text.trim address) = some x ∧ x.code = Text.trim code ∧
        w.now < x.expiresAt) ∧
    (∀ r ∈ past, ∀ x, r.sent? s src = some x → x.expiresAt = r.time + s.codeTtl) ∧
    (Instant.InCalendar (w.now + s.codeTtl) →
      ∀ u, w.accounts.users.get? u.id = some u → u.address channel = some (Text.trim address) →
      ((w.perform s src (.sendCode channel address)).1 = some (.error .alreadyOutstanding) ↔
        ∃ x, outstanding? s src past channel (Text.trim address) = some x ∧ w.now < x.expiresAt) ∧
      ((∃ a, (w.perform s src (.sendCode channel address)).1 = some (.ok a)) ↔
        ¬∃ x, outstanding? s src past channel (Text.trim address) = some x ∧ w.now < x.expiresAt)) := by
  refine ⟨?_, fun r _ x hx => (r.effect s src).expiresAt_of_sent hx, fun hc u hu ha => ?_⟩
  · rw [← h.code?_eq_some_iff fun _ hd => hd]
    constructor
    · intro ho
      have e := Step.effect s src ⟨w, .confirm channel address code⟩
      rw [show Step.answer s src ⟨w, .confirm channel address code⟩ = some (.ok ()) from ho] at e
      exact e.confirmed_spec
    · intro hx
      obtain ⟨ha, u, hu, hid⟩ := h.owner_of_code? hx
      obtain ⟨x, ho, hxc, -⟩ := (h.code?_eq_some_iff fun _ hd => hd).1 hx
      obtain ⟨r, -, hr⟩ := sent_of_outstanding? ho
      obtain ⟨n, hn⟩ := Step.sent?_code hr
      have hne : Text.trim code ≠ "" := by
        rw [← hxc, hn]
        exact Passcode.codeText_ne_empty n
      rw [World.perform_fst]
      exact Holdings.confirm_of_code? hx (Text.filled?_eq_some_iff.1 ha).2 hne hu hid
  · have hsend : (w.perform s src (.sendCode channel address)).1 =
        if (w.codes.code? w.now channel (Text.trim address)).isSome then some (.error .alreadyOutstanding)
        else some (.ok ⟨w.now + s.codeTtl⟩) :=
      (World.perform_fst s src _ w).trans (Holdings.sendCode_of_owner s
        (Text.filled?_eq_some_iff.1 (h.trimmed _ _ _ _ hu ha)).2
        ((Directory.byAddress?_eq_some_iff h.lawful).2 ⟨hu, ha⟩) hc)
    rw [← h.isSome_code?_iff fun _ hd => hd, hsend]
    split
    next hl => simp [hl]
    next hl => simp [hl]

/-- Until it is used up, the code that a newcomer is sent is accepted, and no other is sent. -/
theorem accepts_codes_newcomer :
    ∃ past w, Run Sample.service Sample.sources (0 ≤ ·) (.fresh 0) past w ∧
      (w.perform Sample.service Sample.sources Sample.confirms).1 = some (.ok ()) ∧
      (w.perform Sample.service Sample.sources (.sendCode .email "ada@home")).1 =
        some (.error .alreadyOutstanding) := by
  obtain ⟨a, -, w₁, -, -, h₁, -⟩ := Sample.welcomes_ada
  have h₀ : Run Sample.service Sample.sources (0 ≤ ·) (.fresh 0) [] (.fresh 0) := .start
  have h := h₀.call_of_perform h₁
  have hsent : Step.sent? Sample.service Sample.sources ⟨.fresh 0, Sample.registers⟩ =
      some ⟨.email, "ada@home", "123456", a.codeExpiresAt⟩ := by
    rw [Step.sent?, Step.answer_of_perform h₁]
    rfl
  obtain ⟨hconf, hexp, hsend⟩ := accepts_codes h .email "ada@home" "123456"
  have ht : a.codeExpiresAt = 600000 := hexp _ List.mem_cons_self _ hsent
  have hnow : w₁.now = 0 := World.now_of_perform h₁
  have hout : outstanding? Sample.service Sample.sources [⟨.fresh 0, Sample.registers⟩] .email
      (Text.trim "ada@home") = some ⟨.email, "ada@home", "123456", 600000⟩ := by
    rw [outstanding?, hsent, ht]
    rfl
  have hlt : w₁.now < 600000 := by
    rw [hnow]
    decide
  have hx := h.code?_eq_some_iff (fun _ hd => hd) |>.2 ⟨_, hout, rfl, hlt⟩
  obtain ⟨-, u, hu, -⟩ := h.owner_of_code? hx
  obtain ⟨hu, ha⟩ := (Directory.byAddress?_eq_some_iff h.lawful).1 hu
  have hc : Instant.InCalendar (w₁.now + Sample.service.codeTtl) := by
    rw [hnow]
    decide
  exact ⟨_, w₁, h, hconf.2 ⟨_, hout, rfl, hlt⟩, (hsend hc u hu ha).1.2 ⟨_, hout, hlt⟩⟩

end SignIn
