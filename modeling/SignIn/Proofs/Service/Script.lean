import SignIn.Proofs.Service.Run

/-! Scripts: all that is to happen to a deployment, written down beforehand. -/

namespace SignIn

inductive Event where
  | call (c : Call)
  | sweep
  | settle
  | move (d : Int)
  deriving DecidableEq

/-- A call and its answer. -/
structure Reply where
  call : Call
  answer : Option (Except ServiceError call.Answer)

namespace World

variable (s : Service) (src : Sources)

def next (w : World Directory) : Event → World Directory
  | .call c => (w.perform s src c).2
  | .sweep => w.swept src
  | .settle => w.settled src
  | .move d => { w with now := w.now + d }

def reply? (w : World Directory) : Event → Option Reply
  | .call c => some ⟨c, (w.perform s src c).1⟩
  | _ => none

def after (w : World Directory) (es : List Event) : World Directory := es.foldl (next s src) w

/-- What is answered to the calls of a script, in order. -/
def replies (w : World Directory) : List Event → List Reply
  | [] => []
  | e :: es => (w.reply? s src e).toList ++ replies (w.next s src e) es

def released (w : World Directory) : Event → List Message
  | .settle => w.outbox
  | _ => []

/-- The messages that are handed over, in order. -/
def handed (w : World Directory) : List Event → List Message
  | [] => []
  | e :: es => w.released e ++ handed (w.next s src e) es

end World

variable {s : Service} {src : Sources} {moves : Int → Prop} {start w : World Directory} {past : List Step}

/-- A script is a run of what it tells. -/
theorem Run.after {es : List Event} (h : Run s src moves start past w) (hm : ∀ d, .move d ∈ es → moves d) :
    ∃ past, Run s src moves start past (w.after s src es) := by
  induction es generalizing past w with
  | nil => exact ⟨past, h⟩
  | cons e es ih =>
    have hm' : ∀ d, .move d ∈ es → moves d := fun d hd => hm d (List.mem_cons_of_mem e hd)
    cases e with
    | call c => exact ih (h.call c) hm'
    | sweep => exact ih h.sweep hm'
    | settle => exact ih h.settle hm'
    | move d => exact ih (h.move (hm d List.mem_cons_self)) hm'

end SignIn
