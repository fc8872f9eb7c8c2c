import SignIn.Proofs.Service.Agreement
import SignIn.Proofs.Service.Newcomer

/-! Sweeps are not noticed. -/

namespace SignIn

variable {s : Service} {src : Sources} {t : Int} {past past' : List Step} {w w' : World Directory}

/-- Two scripts were answered alike, call for call. -/
inductive Reply.SameAll : List Reply → List Reply → Prop
  | nil : SameAll [] []
  | cons {r r' l l'} : Same r r' → SameAll l l' → SameAll (r :: l) (r' :: l')

/-- A script without its sweeps. -/
def Event.unswept (es : List Event) : List Event := es.filter (· ≠ .sweep)

/-- What a sweep leaves of a deployment. -/
structure World.Swept (w w' : World Directory) : Prop where
  sessions : ∀ x, x ∈ w'.sessions.records ↔ x ∈ w.sessions.records ∧ w.now < x.2.expiresAt
  codes : ∀ x, x ∈ w'.codes ↔ x ∈ w.codes ∧ w.now < x.2.expiresAt
  index : ∀ user members, (user, members) ∈ w'.sessions.index → ∀ jti ∈ members,
    (w'.sessions.records.get? jti).isSome

theorem Run.swept {moves : Int → Prop} (h : Run s src moves (.fresh t) past w) : w.Swept (w.swept src) where
  sessions x := by
    rw [World.sessions_swept, SessionStore.purge, List.mem_filter]
    simp [Expiring.isExpired]
  codes x := by
    rw [World.codes_swept, PasscodeStore.purge, List.mem_filter]
    simp [Expiring.isExpired]
  index user members hm jti hj := by
    have hi := h.sweep.indexed
    have hk : jti ∈ (w.swept src).sessions.members user := by
      rw [SessionStore.members, (Table.get?_eq_some_iff hi.indexKeyed).2 hm]
      exact hj
    obtain ⟨e, he, -⟩ := hi.mem_iff.1 hk
    exact Option.isSome_of_eq_some he

namespace World

theorem agrees_perform (h : w.holdings.Agrees w'.holdings) (hi : w.sessions.Indexed) (hi' : w'.sessions.Indexed)
    (c : Call) :
    Reply.Same ⟨c, (w.perform s src c).1⟩ ⟨c, (w'.perform s src c).1⟩ ∧
      (w.perform s src c).2.holdings.Agrees (w'.perform s src c).2.holdings := by
  rw [perform_fst, perform_fst, holdings_perform, holdings_perform]
  exact h.call hi hi' c

theorem agrees_swept (h : w.holdings.Agrees w'.holdings) (hi : w.sessions.Indexed) (hc : w.codes.keys.Nodup) :
    (w.swept src).holdings.Agrees w'.holdings := by
  rw [holdings_swept]
  exact h.swept hi hc

theorem agrees_settled (h : w.holdings.Agrees w'.holdings) :
    (w.settled src).holdings.Agrees (w'.settled src).holdings := by
  rw [holdings_settled, holdings_settled]
  exact h.settled

/-- From deployments that agree, a script is answered as it is without its sweeps. -/
theorem replies_unswept {es : List Event} (hm : ∀ d, .move d ∈ es → 0 ≤ d)
    (r : Run s src (0 ≤ ·) (.fresh t) past w) (r' : Run s src (0 ≤ ·) (.fresh t) past' w')
    (h : w.holdings.Agrees w'.holdings) :
    Reply.SameAll (w.replies s src es) (w'.replies s src (Event.unswept es)) := by
  induction es generalizing past past' w w' with
  | nil => exact .nil
  | cons e es ih =>
    have hm' : ∀ d, .move d ∈ es → 0 ≤ d := fun d hd => hm d (List.mem_cons_of_mem e hd)
    cases e with
    | call c =>
      obtain ⟨ha, hw⟩ := agrees_perform h r.indexed r'.indexed c
      exact .cons ha (ih hm' (r.call c) (r'.call c) hw)
    -- the one event that only one of the two goes through
    | sweep => exact ih hm' r.sweep r' (agrees_swept h r.indexed r.owned.keyed)
    | settle => exact ih hm' r.settle r'.settle (agrees_settled h)
    | move d =>
      have hd := hm d List.mem_cons_self
      exact ih hm' (r.move hd) (r'.move hd) (h.moved hd)

end World

/-- Whatever a deployment is told to do, and however often it is swept in between, its answers are those it gives
without being swept. A sweep drops what has expired from sessions, codes and index, and nothing else. -/
theorem sweeps_unnoticed (s : Service) (src : Sources) (t : Int) {es : List Event} (hm : ∀ d, .move d ∈ es → 0 ≤ d) :
    Reply.SameAll ((World.fresh t).replies s src es) ((World.fresh t).replies s src (Event.unswept es)) ∧
      ((World.fresh t).after s src es).Swept (((World.fresh t).after s src es).swept src) := by
  obtain ⟨past, h⟩ := (Run.start : Run s src (0 ≤ ·) (.fresh t) [] (.fresh t)).after hm
  exact ⟨World.replies_unswept hm .start .start (.intro (fun _ _ _ => rfl) (fun _ _ _ _ => rfl)), h.swept⟩

/-- A newcomer who comes back when their code is over is answered the same, whether it has been swept or not. -/
theorem sweeps_unnoticed_newcomer :
    let w := (World.fresh 0).after Sample.service Sample.sources [.call Sample.registers, .move 600000]
    ((w.swept Sample.sources).perform Sample.service Sample.sources Sample.confirms).1 =
        (w.perform Sample.service Sample.sources Sample.confirms).1 ∧
      w.Swept (w.swept Sample.sources) := by
  intro w
  have before : ∀ d, .move d ∈ [Event.call Sample.registers, .move 600000] → 0 ≤ d := by simp
  have forward :
      ∀ d, .move d ∈ [Event.call Sample.registers, .move 600000, .sweep, .call Sample.confirms] → 0 ≤ d := by
    simp
  obtain ⟨-, hw⟩ := sweeps_unnoticed Sample.service Sample.sources 0 before
  obtain ⟨h, -⟩ := sweeps_unnoticed Sample.service Sample.sources 0 forward
  have same {a b : Option (Except ServiceError Unit)} (hs : Reply.Same ⟨Sample.confirms, a⟩ ⟨Sample.confirms, b⟩) :
      a = b := by
    cases hs
    rfl
  cases h with
  | cons _ h => cases h with
    | cons h _ => exact ⟨same h, hw⟩

end SignIn
