import SignIn.Proofs.Service.Traffic

/-! What is asked while calls are under way at the same time, question by question, and of which deployment. -/

namespace SignIn

namespace Program

variable {ι : Type} {ρ : ι → Type} {α σ : Type}

def question? : Program ρ α → Option ι
  | .call i _ => some i
  | _ => none

theorem advance_snd (answer : (i : ι) → σ → Option (ρ i) × σ) {p : Program ρ α} {i : ι} (h : p.question? = some i)
    (s : σ) : (p.advance answer s).2 = (answer i s).2 := by
  cases p with
  | call j next =>
    cases h
    rw [advance]
    rcases answer i s with ⟨_ | x, s⟩ <;> rfl
  | _ => cases h

theorem advance_of_silent (answer : (i : ι) → σ → Option (ρ i) × σ) {p : Program ρ α} (h : p.question? = none) (s : σ) :
    p.advance answer s = (p, s) := by
  cases p with
  | call j next => cases h
  | _ => rfl

end Program

/-- A question of one of the calls, or from elsewhere, and the deployment that it is put to. -/
structure Asked where
  caller : Option Nat
  query : Query
  world : World Directory

namespace Traffic

/-- What is asked when it is somebody's turn. -/
def asked? (t : Traffic) : Turn → Option Asked
  | .goOn i => t.calls[i]?.bind fun p => p.rest.question?.map fun q => ⟨some i, q, t.world⟩
  | .ask q => some ⟨none, q, t.world⟩
  | .wait _ => none

def history (src : Sources) : List Turn → Traffic → List Asked
  | [], _ => []
  | turn :: turns, t => (t.asked? turn).toList ++ history src turns (t.next src turn)

variable {src : Sources} {t : Traffic} {turn : Turn} {turns : List Turn} {x : Asked}

theorem history_append (a b : List Turn) (t : Traffic) :
    t.history src (a ++ b) = t.history src a ++ (t.after src a).history src b := by
  induction a generalizing t with
  | nil => rfl
  | cons turn a ih =>
    rw [List.cons_append, history, history, ih, List.append_assoc]
    rfl

theorem world_of_asked (h : t.asked? turn = some x) : x.world = t.world := by
  cases turn with
  | wait d => cases h
  | ask q =>
    cases h
    rfl
  | goOn i =>
    obtain ⟨p, -, h⟩ := Option.bind_eq_some_iff.1 h
    obtain ⟨q, -, rfl⟩ := Option.map_eq_some_iff.1 h
    rfl

theorem world_next (src : Sources) (h : t.asked? turn = some x) :
    (t.next src turn).world = (World.answer src x.query x.world).2 := by
  cases turn with
  | wait d => cases h
  | ask q =>
    cases h
    rfl
  | goOn i =>
    obtain ⟨p, hp, h⟩ := Option.bind_eq_some_iff.1 h
    obtain ⟨q, hq, rfl⟩ := Option.map_eq_some_iff.1 h
    rw [next, hp]
    exact Program.advance_snd _ hq _

/-- Where nothing is asked only time passes. -/
theorem world_next_of_silent (src : Sources) (h : t.asked? turn = none) :
    ∃ d, (t.next src turn).world = { t.world with now := t.world.now + d } := by
  have still : t.world = { t.world with now := t.world.now + 0 } := by rw [Int.add_zero]
  cases turn with
  | wait d => exact ⟨d, rfl⟩
  | ask q => cases h
  | goOn i =>
    refine ⟨0, Eq.trans ?_ still⟩
    rw [next]
    cases hp : t.calls[i]? with
    | none => rfl
    | some p =>
      have hq : p.rest.question? = none := by simpa [asked?, hp] using h
      dsimp only
      rw [Program.advance_of_silent _ hq]

theorem history_cons_of_asked (h : t.asked? turn = some x) (turns : List Turn) :
    t.history src (turn :: turns) = x :: (t.next src turn).history src turns := by
  rw [history, h]
  rfl

theorem history_cons_of_silent (h : t.asked? turn = none) (turns : List Turn) :
    t.history src (turn :: turns) = (t.next src turn).history src turns := by
  rw [history, h]
  rfl

theorem exists_split {m : Nat} (h : (t.history src turns)[m]? = some x) :
    ∃ a turn b, turns = a ++ turn :: b ∧ (t.history src a).length = m ∧ (t.after src a).asked? turn = some x := by
  induction turns generalizing t m with
  | nil => cases h
  | cons turn turns ih =>
    cases hq : t.asked? turn with
    | none =>
      rw [history_cons_of_silent hq] at h
      obtain ⟨a, turn', b, rfl, hm, hx⟩ := ih h
      exact ⟨turn :: a, turn', b, rfl, by rw [history_cons_of_silent hq, hm], hx⟩
    | some z =>
      rw [history_cons_of_asked hq] at h
      cases m with
      | zero =>
        obtain rfl := Option.some.inj h
        exact ⟨[], turn, turns, rfl, rfl, hq⟩
      | succ m =>
        obtain ⟨a, turn', b, rfl, hm, hx⟩ := ih h
        exact ⟨turn :: a, turn', b, rfl, by rw [history_cons_of_asked hq, List.length_cons, hm], hx⟩

/-- Between two questions there is a history of its own. -/
theorem exists_between {m n : Nat} {y : Asked} (hx : (t.history src turns)[m]? = some x)
    (hy : (t.history src turns)[n]? = some y) (hmn : m < n) :
    ∃ (t' : Traffic) (turns' : List Turn), t'.world = (World.answer src x.query x.world).2 ∧ (t'.after src turns').world = y.world ∧
      ∀ z ∈ t'.history src turns', ∃ j, m < j ∧ j < n ∧ (t.history src turns)[j]? = some z := by
  obtain ⟨a, turn, b, rfl, ha, hxa⟩ := exists_split hx
  have hhistory : t.history src (a ++ turn :: b) =
      t.history src a ++ x :: ((t.after src a).next src turn).history src b := by
    rw [history_append, history_cons_of_asked hxa]
  have hlater (j : Nat) : (t.history src (a ++ turn :: b))[m + 1 + j]? =
      (((t.after src a).next src turn).history src b)[j]? := by
    rw [hhistory, List.getElem?_append_right (by omega), ha, show m + 1 + j - m = j + 1 by omega, List.getElem?_cons_succ]
  rw [show n = m + 1 + (n - m - 1) by omega, hlater] at hy
  obtain ⟨c, turn', d, rfl, hc, hyc⟩ := exists_split hy
  refine ⟨(t.after src a).next src turn, c, world_next src hxa, (world_of_asked hyc).symm, fun z hz => ?_⟩
  · obtain ⟨j, hj, rfl⟩ := List.getElem_of_mem hz
    refine ⟨m + 1 + j, by omega, by omega, ?_⟩
    rw [hlater, history_append, List.getElem?_append_left hj, List.getElem?_eq_getElem hj]

end Traffic

/-- Asked this and answered as it is, a program has come to what is left of it. -/
def Program.Leads (src : Sources) {β : Type} (p : Program Query.Reply β) : List Asked → Program Query.Reply β → Prop
  | [], p' => p = p'
  | x :: l, p' => p.question? = some x.query ∧ (p.advance (World.answer src) x.world).1.Leads src l p'

namespace Traffic

variable {src : Sources} {t : Traffic}

theorem calls_next_of_ne {i : Nat} {turn : Turn} (h : turn ≠ .goOn i) : (t.next src turn).calls[i]? = t.calls[i]? := by
  cases turn with
  | wait d => rfl
  | ask q => rfl
  | goOn j =>
    rw [next]
    cases t.calls[j]? with
    | none => rfl
    | some p => exact List.getElem?_set_ne fun hji => h (congrArg Turn.goOn hji)

theorem caller_ne {i : Nat} {turn : Turn} (h : turn ≠ .goOn i) : ∀ x ∈ t.asked? turn, x.caller ≠ some i := by
  intro x hx
  cases turn with
  | wait d => cases hx
  | ask q =>
    cases hx
    exact (Option.some_ne_none i).symm
  | goOn j =>
    obtain ⟨p, -, hx⟩ := Option.bind_eq_some_iff.1 hx
    obtain ⟨q, -, rfl⟩ := Option.map_eq_some_iff.1 hx
    exact fun hji => h (congrArg Turn.goOn (Option.some.inj hji))

theorem length_calls_after (t : Traffic) (turns : List Turn) : (t.after src turns).calls.length = t.calls.length := by
  induction turns generalizing t with
  | nil => rfl
  | cons turn turns ih =>
    refine (ih (t.next src turn)).trans ?_
    cases turn with
    | wait d => rfl
    | ask q => rfl
    | goOn i =>
      rw [next]
      cases t.calls[i]? with
      | none => rfl
      | some p => exact List.length_set

/-- What is left of a call is what its own questions have left of it. -/
theorem exists_leads {i : Nat} {p : Pending} (hp : t.calls[i]? = some p) (turns : List Turn) :
    ∃ rest, (t.after src turns).calls[i]? = some { p with rest } ∧
      p.rest.Leads src ((t.history src turns).filter (·.caller = some i)) rest := by
  induction turns generalizing t p with
  | nil => exact ⟨p.rest, hp, rfl⟩
  | cons turn turns ih =>
    rw [history, List.filter_append]
    -- Only the call's own turns take it further, and only they are among its questions.
    by_cases hturn : turn = .goOn i
    · subst hturn
      have hi : i < t.calls.length := (List.getElem?_eq_some_iff.1 hp).1
      have hnext : (t.next src (.goOn i)).calls[i]? =
          some { p with rest := (p.rest.advance (World.answer src) t.world).1 } := by
        rw [next, hp]
        exact List.getElem?_set_self hi
      obtain ⟨rest, hrest, hl⟩ := ih hnext
      refine ⟨rest, hrest, ?_⟩
      rw [asked?, hp, Option.bind_some]
      cases hq : p.rest.question? with
      | none =>
        rw [Program.advance_of_silent _ hq] at hl
        exact hl
      | some q =>
        rw [Option.map_some, Option.toList_some, List.filter_cons_of_pos (by simp), List.filter_nil]
        exact ⟨hq, hl⟩
    · have hnone : ((t.asked? turn).toList.filter fun x => decide (x.caller = some i)) = [] := by
        rw [List.filter_eq_nil_iff]
        intro x hx
        simpa using caller_ne hturn x (Option.mem_toList.1 hx)
      rw [hnone]
      exact ih ((calls_next_of_ne hturn).trans hp)

end Traffic
end SignIn
