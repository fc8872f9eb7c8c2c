import Mathlib.Data.List.Forall2
import Mathlib.Data.List.Perm.Basic
import SignIn.Proofs.Service.Asked
import SignIn.Proofs.Service.Codes
import SignIn.Proofs.Service.Script

/-! The messages that are handed over: one for each code that was sent, whoever carries them, in whatever order, and
whatever becomes of them. -/

namespace SignIn

/-- What is to happen to a deployment whose messages are handed over one by one. -/
inductive Occasion where
  | call (c : Call)
  | sweep
  | move (d : Int)
  /-- the message that waits in this place is handed to somebody -/
  | deliver (place : Nat) (k : Carrier)

/-- The event, if it is no delivery. -/
def Occasion.event? : Occasion → Option Event
  | .call c => some (.call c)
  | .sweep => some .sweep
  | .move d => some (.move d)
  | .deliver .. => none

namespace Holdings

variable {α : Type} (src : Sources) (op : Operation α) (w : Holdings)

/-- All that is held but for the messages that wait. -/
def unposted : Holdings := { w with outbox := [] }

/-- Messages that wait already change nothing but what waits in the end. -/
theorem exec_outbox (l : List Message) :
    exec src op { w with outbox := l ++ w.outbox } =
      ((exec src op w).1, { (exec src op w).2 with outbox := l ++ (exec src op w).2.outbox }) := by
  refine Program.run_map (fun w : Holdings => { w with outbox := l ++ w.outbox }) (fun q w => ?_) op.run w
  cases q with
  | post m => simp only [answer, List.append_assoc]
  | _ => rfl

theorem exec_unposted :
    (exec src op w.unposted).1 = (exec src op w).1 ∧
      (exec src op w.unposted).2.unposted = (exec src op w).2.unposted := by
  have h := exec_outbox src op w.unposted w.outbox
  rw [show { w.unposted with outbox := w.outbox ++ w.unposted.outbox } = w by simp [unposted]] at h
  rw [h]
  exact ⟨rfl, rfl⟩

/-- Who carries messages makes no difference to a call. -/
theorem exec_carrier (s : Service) (k : Carrier) (c : Call) :
    exec { src with carrier := k } (c.operation s) w = exec src (c.operation s) w := by
  refine (c.quiet_operation s).run_congr (fun q w hq => ?_) w
  cases q with
  | send m => cases hq
  | _ => rfl

end Holdings

namespace World

/-- The message that waits in this place is carried by `k`. -/
def delivered (src : Sources) (place : Nat) (k : Carrier) (w : World Directory) : World Directory :=
  match w.outbox[place]? with
  | none => w
  | some m =>
    ((Service.deliver m).run (answer { src with carrier := k }) { w with outbox := w.outbox.eraseIdx place }).2

variable (s : Service) (src : Sources)

def meet (w : World Directory) : Occasion → World Directory
  | .call c => (w.perform s src c).2
  | .sweep => w.swept src
  | .move d => { w with now := w.now + d }
  | .deliver place k => w.delivered src place k

def course (w : World Directory) (xs : List Occasion) : World Directory := xs.foldl (meet s src) w

def step? (w : World Directory) : Occasion → Option Step
  | .call c => some ⟨w, c⟩
  | _ => none

/-- The calls, in order. -/
def steps (w : World Directory) : List Occasion → List Step
  | [] => []
  | x :: xs => (w.step? x).toList ++ steps (w.meet s src x) xs

/-- What is asked on an occasion, in order. -/
def asked (w : World Directory) : Occasion → List Query
  | .call c => (c.operation s).run.asked (answer src) w
  | .sweep => sweep.asked (answer src) w
  | .move _ => []
  | .deliver place k =>
    match w.outbox[place]? with
    | none => []
    | some m => (Service.deliver m).asked (answer { src with carrier := k }) { w with outbox := w.outbox.eraseIdx place }

/-- The messages that carriers are asked to take, in order. -/
def carried (w : World Directory) : List Occasion → List Message
  | [] => []
  | x :: xs => (w.asked s src x).filterMap Query.carried? ++ carried (w.meet s src x) xs

end World

def Call.sends : Call → Bool
  | .register _ => true
  | .sendCode .. => true
  | _ => false

namespace Step

variable (s : Service) (src : Sources) (r : Step)

def reply : Reply := ⟨r.call, r.answer s src⟩

/-- The call was one that sends a code, and succeeded. -/
def sends : Bool := r.call.sends && (Call.succeeded? some (r.answer s src)).isSome

/-- The message takes the code that is kept, when the call returns, for the address that the call gave. -/
inductive Announces : Message → Prop
  | sms {a e} : r.call.recipient? = some (.phone, a) → (r.after s src).codes.get? (.phone, a) = some e →
    Announces (.sms a s!"Your verify code is: {e.value.code}")
  | mail {a e} : r.call.recipient? = some (.email, a) → (r.after s src).codes.get? (.email, a) = some e →
    Announces (.mail a s!"Verify code for {s.name}" s!"Your verify code is: {e.value.code}")

end Step

variable {s : Service} {src : Sources}

theorem Step.announces_ofCode {r : Step} {c : Channel} {a : String} {e : Expiring Passcode}
    (hr : r.call.recipient? = some (c, a)) (he : (r.after s src).codes.get? (c, a) = some e) :
    r.Announces s src (.ofCode s.name c a e.value.code) := by
  cases c with
  | phone => exact .sms hr he
  | email => exact .mail hr he

/-- What is posted is the code that is kept from now on. -/
theorem Holdings.outbox_sent {w : Holdings} {channel : Channel} {address : String} {p : Passcode}
    (hp : w.Sends s src channel address p) :
    ∃ e, (w.sent s p).codes.get? (channel, Text.trim address) = some e ∧
      (w.sent s p).outbox = w.outbox ++ [.ofCode s.name channel (Text.trim address) e.value.code] := by
  have ha : p.address = Text.trim address := (Text.filled?_eq_some_iff.1 hp.filled).1
  refine ⟨⟨p, p.expiresAt⟩, ?_, ?_⟩
  · rw [sent, ← hp.channel_eq, ← ha, Table.get?_insert_self]
  · rw [sent, ← hp.channel_eq, ← ha]

namespace Effect

variable {w w' : Holdings} {c : Call} {answer : Option (Except ServiceError c.Answer)}

/-- A call that is to send a code and succeeds posts the one that is kept, and no other call posts anything. -/
theorem outbox_eq (h : Effect s src w c answer w') :
    if c.sends && (Call.succeeded? some answer).isSome then
      ∃ channel a e, c.recipient? = some (channel, a) ∧ w'.codes.get? (channel, a) = some e ∧
        w'.outbox = w.outbox ++ [.ofCode s.name channel a e.value.code]
    else w'.outbox = w.outbox := by
  cases h with
  | @registered r f role p hf _ _ hp =>
    have hfill := Registration.filled?_of_form hf (Registration.gives_of_form hf).address
    obtain ⟨e, he, ho⟩ := Holdings.outbox_sent hp
    rw [← (Text.filled?_eq_some_iff.1 hfill).1] at he ho
    exact ⟨f.channel, f.address, e, Call.recipient?_of_form hf, he, ho⟩
  | @sent channel address p hp =>
    obtain ⟨e, he, ho⟩ := Holdings.outbox_sent hp
    exact ⟨channel, Text.trim address, e, rfl, he, ho⟩
  | stranded _ _ _ _ hn =>
    rw [Call.succeeded?_eq_none hn, if_neg (by simp)]
    rfl
  | halted => rw [if_neg (by simp [Call.succeeded?])]; rfl
  | refused => rw [if_neg (by simp [Call.succeeded?])]; rfl
  | _ => rfl

end Effect

/-- What one call adds to the messages that wait. -/
theorem Step.outbox_eq (s : Service) (src : Sources) (r : Step) :
    if r.sends s src then ∃ m, r.Announces s src m ∧ (r.after s src).outbox = r.before.outbox ++ [m]
    else (r.after s src).outbox = r.before.outbox := by
  have h := (r.effect s src).outbox_eq
  unfold sends
  split
  next hs =>
    rw [if_pos hs] at h
    obtain ⟨c, a, e, hr, he, ho⟩ := h
    exact ⟨_, announces_ofCode hr he, ho⟩
  next hs =>
    rw [if_neg hs] at h
    exact h

namespace World

variable {w v : World Directory}

/-- A delivery asks the carrier once, for the message that it is to deliver. -/
theorem carried_deliver (src : Sources) (m : Message) (w : World Directory) :
    ((Service.deliver m).asked (answer src) w).filterMap Query.carried? = [m] := by
  change List.filterMap _ (Program.asked (answer src) (.call (.send m) _) w) = _
  rw [Program.asked, answer]
  rcases src.carrier.send m with ⟨lines, _ | _⟩ <;> rfl

theorem carried_of_quiet {α : Type} {p : Program Query.Reply α} (h : p.Asks fun q => q.carried? = none) (src : Sources)
    (w : World Directory) : (p.asked (answer src) w).filterMap Query.carried? = [] :=
  List.filterMap_eq_nil_iff.2 fun _ hq => h.of_mem_asked hq

theorem carried_sweep (src : Sources) (w : World Directory) :
    (sweep.asked (answer src) w).filterMap Query.carried? = [] :=
  carried_of_quiet (asks_sweep.mono fun _ => Query.carried?_of_purges) src w

theorem holdings_delivered (src : Sources) (place : Nat) (k : Carrier) (w : World Directory) :
    (w.delivered src place k).holdings = { w.holdings with outbox := w.outbox.eraseIdx place } := by
  unfold delivered
  split
  next h => rw [List.eraseIdx_of_length_le (List.getElem?_eq_none_iff.1 h)]; rfl
  next m h =>
    have hr := Program.run_map holdings (Holdings.answer_holdings { src with carrier := k }) (Service.deliver m)
      { w with outbox := w.outbox.eraseIdx place }
    exact (congrArg Prod.snd hr).symm.trans (Holdings.run_deliver m _)

/-- Whatever waits and whatever has been handed over was posted, once for each call that succeeded in sending a code. -/
theorem exists_posted (s : Service) (src : Sources) (w : World Directory) (xs : List Occasion) :
    ∃ posted, List.Forall₂ (Step.Announces s src) ((w.steps s src xs).filter (·.sends s src)) posted ∧
      (w.outbox ++ posted).Perm (w.carried s src xs ++ (w.course s src xs).outbox) := by
  induction xs generalizing w with
  | nil => exact ⟨[], .nil, by rw [List.append_nil]; exact .refl _⟩
  | cons x xs ih =>
    obtain ⟨posted, hs, hp⟩ := ih (w.meet s src x)
    cases x with
    | call c =>
      have h := Step.outbox_eq s src ⟨w, c⟩
      rw [steps, step?, Option.toList_some, List.singleton_append, List.filter_cons]
      split at h
      next hc =>
        obtain ⟨m, hm, ho⟩ := h
        refine ⟨m :: posted, ?_, ?_⟩
        · rw [if_pos hc]
          exact .cons hm hs
        · rw [carried, asked, carried_of_quiet (c.quiet_operation s), List.nil_append]
          rw [show (w.meet s src (.call c)).outbox = w.outbox ++ [m] from ho, List.append_assoc] at hp
          exact hp
      next hc =>
        refine ⟨posted, ?_, ?_⟩
        · rw [if_neg hc]
          exact hs
        · rw [carried, asked, carried_of_quiet (c.quiet_operation s), List.nil_append]
          rw [show (w.meet s src (.call c)).outbox = w.outbox from h] at hp
          exact hp
    | sweep =>
      have ho : (w.meet s src .sweep).outbox = w.outbox := congrArg Holdings.outbox (holdings_swept src w)
      rw [ho] at hp
      rw [carried, asked, carried_sweep, List.nil_append]
      exact ⟨posted, hs, hp⟩
    | move d => exact ⟨posted, hs, hp⟩
    | deliver place k =>
      have ho : (w.meet s src (.deliver place k)).outbox = w.outbox.eraseIdx place :=
        congrArg Holdings.outbox (holdings_delivered src place k w)
      rw [ho] at hp
      refine ⟨posted, hs, ?_⟩
      rw [carried, asked, List.append_assoc]
      cases hm : w.outbox[place]? with
      | none =>
        rw [List.eraseIdx_of_length_le (List.getElem?_eq_none_iff.1 hm)] at hp
        exact hp
      | some m =>
        obtain ⟨hl, rfl⟩ := List.getElem?_eq_some_iff.1 hm
        have hw := (List.getElem_cons_eraseIdx_perm hl).symm.append_right posted
        dsimp only
        rw [carried_deliver]
        exact hw.trans (hp.cons _)

variable {s : Service} {src : Sources}

theorem perform_unposted (h : w.holdings.unposted = v.holdings.unposted) (k : Carrier) (c : Call) :
    (w.perform s src c).1 = (v.perform s { src with carrier := k } c).1 ∧
      (w.perform s src c).2.holdings.unposted = (v.perform s { src with carrier := k } c).2.holdings.unposted := by
  obtain ⟨hw₁, hw₂⟩ := Holdings.exec_unposted src (c.operation s) w.holdings
  obtain ⟨hv₁, hv₂⟩ := Holdings.exec_unposted src (c.operation s) v.holdings
  rw [perform_fst, perform_fst, holdings_perform, holdings_perform, Holdings.exec_carrier src v.holdings s k c,
    ← hw₁, ← hw₂, ← hv₁, ← hv₂, h]
  exact ⟨rfl, rfl⟩

theorem swept_unposted (h : w.holdings.unposted = v.holdings.unposted) (k : Carrier) :
    (w.swept src).holdings.unposted = (v.swept { src with carrier := k }).holdings.unposted := by
  rw [holdings_swept, holdings_swept]
  exact congrArg (fun x : Holdings =>
    { x with sessions := (x.sessions.purge x.now).2, codes := (PasscodeStore.purge x.codes x.now).2 }) h

/-- The calls are answered, and everything but what waits is left, as if nothing had been handed to anybody. -/
theorem course_unposted (h : w.holdings.unposted = v.holdings.unposted) (k : Carrier) (xs : List Occasion) :
    (w.steps s src xs).map (Step.reply s src) = v.replies s { src with carrier := k } (xs.filterMap Occasion.event?) ∧
      (w.course s src xs).holdings.unposted =
        (v.after s { src with carrier := k } (xs.filterMap Occasion.event?)).holdings.unposted := by
  induction xs generalizing w v with
  | nil => exact ⟨rfl, h⟩
  | cons x xs ih =>
    cases x with
    | call c =>
      obtain ⟨ha, hw⟩ := @perform_unposted w v s src h k c
      obtain ⟨hr, hx⟩ := ih hw
      refine ⟨?_, hx⟩
      have hc : Step.reply s src ⟨w, c⟩ = ⟨c, (v.perform s { src with carrier := k } c).1⟩ := by rw [← ha]; rfl
      exact List.cons_eq_cons.2 ⟨hc, hr⟩
    | sweep => exact ih (swept_unposted h k)
    | move d => exact ih (congrArg (fun x : Holdings => { x with now := x.now + d }) h)
    | deliver place k' =>
      refine ih (Eq.trans ?_ h)
      rw [meet, holdings_delivered]
      rfl

theorem run_deliver_outbox (m : Message) (l : List Message) (w : World Directory) :
    ((Service.deliver m).run (answer src) { w with outbox := l }).2 =
      { ((Service.deliver m).run (answer src) w).2 with outbox := l } := by
  change (Program.run (answer src) (.call (.send m) _) _).2 = { (Program.run (answer src) (.call (.send m) _) _).2 with
    outbox := l }
  rw [Program.run, Program.run, answer, answer]
  rcases src.carrier.send m with ⟨lines, _ | _⟩ <;> rfl

/-- To settle is to hand all that waits to the usual carrier, one message after another. -/
theorem settled_eq_course (s : Service) (w : World Directory) :
    w.settled src = w.course s src (List.replicate w.outbox.length (.deliver 0 src.carrier)) := by
  have hl (l : List Message) (w : World Directory) :
      l.foldl (fun w m => ((Service.deliver m).run (answer src) w).2) { w with outbox := [] } =
        course s src { w with outbox := l } (List.replicate l.length (.deliver 0 src.carrier)) := by
    induction l generalizing w with
    | nil => rfl
    | cons m l ih =>
      rw [List.foldl_cons, run_deliver_outbox, ih, ← run_deliver_outbox]
      rfl
  exact hl w.outbox w

end World

/-- Each message that waits or was handed over is that of one call that sent a code and succeeded, and each such call
has one: with the code that is kept for it when the call returns, to the trimmed address, over the channel of the call.
A delivery hands its message over, once. Whoever carries the messages, and whatever they do with them: no answer and
nothing that is kept depends on it. -/
theorem announces_each_code (s : Service) (src : Sources) (t : Int) (xs : List Occasion) :
    (∃ posted, List.Forall₂ (Step.Announces s src) (((World.fresh t).steps s src xs).filter (·.sends s src)) posted ∧
      posted.Perm ((World.fresh t).carried s src xs ++ ((World.fresh t).course s src xs).outbox)) ∧
    (∀ (m : Message) (k : Carrier) (w : World Directory),
      ((Service.deliver m).asked (World.answer { src with carrier := k }) w).filterMap Query.carried? = [m]) ∧
    ∀ k : Carrier,
      let es := xs.filterMap Occasion.event?
      let w := (World.fresh t).course s src xs
      let w' := (World.fresh t).after s { src with carrier := k } es
      ((World.fresh t).steps s src xs).map (Step.reply s src) = (World.fresh t).replies s { src with carrier := k } es ∧
        w.accounts = w'.accounts ∧ w.sessions = w'.sessions ∧ w.codes = w'.codes := by
  refine ⟨World.exists_posted s src (.fresh t) xs, fun m k w => World.carried_deliver _ m w, ?_⟩
  intro k es w w'
  obtain ⟨hr, hx⟩ := @World.course_unposted (.fresh t) (.fresh t) s src rfl k xs
  exact ⟨hr, congrArg Holdings.accounts hx, congrArg Holdings.sessions hx, congrArg Holdings.codes hx⟩

/-- A newcomer's code is handed over, and nothing else. -/
theorem announces_each_code_newcomer :
    ∃ m, Step.Announces Sample.service Sample.sources ⟨.fresh 0, Sample.registers⟩ m ∧
      (World.fresh 0).carried Sample.service Sample.sources [.call Sample.registers, .deliver 0 .quiet] = [m] := by
  obtain ⟨a, -, w₁, -, -, h₁, -⟩ := Sample.welcomes_ada
  obtain ⟨⟨posted, hs, hp⟩, -⟩ :=
    announces_each_code Sample.service Sample.sources 0 [.call Sample.registers, .deliver 0 .quiet]
  have hsends : Step.sends Sample.service Sample.sources ⟨.fresh 0, Sample.registers⟩ = true := by
    rw [Step.sends, Step.answer_of_perform h₁]
    rfl
  have hsteps : (World.fresh 0).steps Sample.service Sample.sources [.call Sample.registers, .deliver 0 .quiet] =
      [⟨.fresh 0, Sample.registers⟩] := rfl
  rw [hsteps, List.filter_cons_of_pos hsends, List.filter_nil] at hs
  obtain ⟨m, l, hm, hl, rfl⟩ := List.forall₂_cons_left_iff.1 hs
  cases hl
  have hout : ((World.fresh 0).course Sample.service Sample.sources
      [.call Sample.registers, .deliver 0 .quiet]).outbox = [] := by
    have h := Step.outbox_eq Sample.service Sample.sources ⟨.fresh 0, Sample.registers⟩
    rw [if_pos hsends] at h
    obtain ⟨m', -, ho⟩ := h
    have hd := World.holdings_delivered Sample.sources 0 .quiet
      (Step.after Sample.service Sample.sources ⟨.fresh 0, Sample.registers⟩)
    exact (congrArg Holdings.outbox hd).trans (congrArg (List.eraseIdx · 0) ho)
  rw [hout, List.append_nil] at hp
  exact ⟨m, hm, (List.singleton_perm.1 hp).symm⟩

end SignIn
