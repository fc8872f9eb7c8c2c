import SignIn.Account.Directory
import SignIn.Service.Sweeper
import SignIn.Service.World

/-! Runs of a deployment: calls of the service, sweeps, deliveries and moves of the clock, one after another. -/

namespace SignIn

/-- What the service can be called for. -/
inductive Call where
  | register (r : Registration)
  | login (c : Credentials) (ip userAgent : String)
  | refresh (token : String)
  | logout (token : String)
  | sessions (user : UserId)
  | revoke (caller : UserId) (jti : String)
  | sendCode (channel : Channel) (address : String)
  | confirm (channel : Channel) (address code : String)
  | changePassword (user : UserId) (old new : String)
  | authenticate (token : String)
  | profile (token : String)
  deriving DecidableEq

namespace Call

abbrev Answer : Call → Type
  | .register _ => Registered
  | .login .. => LoggedIn
  | .refresh _ => LoggedIn
  | .logout _ => Unit
  | .sessions _ => List SessionView
  | .revoke .. => Unit
  | .sendCode .. => CodeSent
  | .confirm .. => Unit
  | .changePassword .. => Unit
  | .authenticate _ => Identity
  | .profile _ => Profile

def operation (s : Service) : (c : Call) → Operation c.Answer
  | .register r => s.register r
  | .login c ip userAgent => s.login c ip userAgent
  | .refresh token => s.refresh token
  | .logout token => s.logout token
  | .sessions user => Service.sessionsOf user
  | .revoke caller jti => Service.revoke caller jti
  | .sendCode channel address => s.sendCode channel address
  | .confirm channel address code => Service.confirm channel address code
  | .changePassword user old new => Service.changePassword user old new
  | .authenticate token => s.authenticate token
  | .profile token => s.profile token

/-- What `f` makes of the answer, if there is one and it is no refusal. -/
def succeeded? {α β : Type} (f : α → Option β) : Option (Except ServiceError α) → Option β
  | some (.ok a) => f a
  | _ => none

theorem succeeded?_eq_none {α β : Type} {answer : Option (Except ServiceError α)} (h : ∀ a, answer ≠ some (.ok a))
    (f : α → Option β) : succeeded? f answer = none := by
  rcases answer with _ | _ | a
  · rfl
  · rfl
  · exact absurd rfl (h a)

theorem succeeded?_eq_some_iff {α β : Type} {answer : Option (Except ServiceError α)} {f : α → Option β} {b : β} :
    succeeded? f answer = some b ↔ ∃ a, answer = some (.ok a) ∧ f a = some b := by
  rcases answer with _ | _ | a <;> simp [succeeded?]

end Call

namespace World

/-- A deployment that nothing has happened to. -/
def fresh (now : Int) : World Directory := { now, accounts := {} }

/-- There is no answer to a call that halts. -/
def perform (s : Service) (src : Sources) (c : Call) (w : World Directory) :
    Option (Except ServiceError c.Answer) × World Directory :=
  (c.operation s).run.run (answer src) w

def swept (src : Sources) (w : World Directory) : World Directory := (sweep.run (answer src) w).2

def settled (src : Sources) (w : World Directory) : World Directory :=
  w.outbox.foldl (fun w m => ((Service.deliver m).run (answer src) w).2) { w with outbox := [] }

end World

/-- A call, and the deployment it was made to. -/
structure Step where
  before : World Directory
  call : Call

namespace Step

def time (r : Step) : Int := r.before.now

def answer (s : Service) (src : Sources) (r : Step) : Option (Except ServiceError r.call.Answer) :=
  (r.before.perform s src r.call).1

def after (s : Service) (src : Sources) (r : Step) : World Directory := (r.before.perform s src r.call).2

end Step

/-- The calls of a run, the latest first, and the deployment it ends with. The clock moves only as `moves` lets it. -/
inductive Run (s : Service) (src : Sources) (moves : Int → Prop) (start : World Directory) :
    List Step → World Directory → Prop
  | start : Run s src moves start [] start
  | call {past w} (c : Call) : Run s src moves start past w →
    Run s src moves start (⟨w, c⟩ :: past) (w.perform s src c).2
  | sweep {past w} : Run s src moves start past w → Run s src moves start past (w.swept src)
  | settle {past w} : Run s src moves start past w → Run s src moves start past (w.settled src)
  | move {past w d} : moves d → Run s src moves start past w → Run s src moves start past { w with now := w.now + d }

variable {s : Service} {src : Sources} {moves : Int → Prop} {start w w' : World Directory} {past : List Step} {c : Call}
  {answer : Option (Except ServiceError c.Answer)}

theorem Step.answer_of_perform (h : w.perform s src c = (answer, w')) : Step.answer s src ⟨w, c⟩ = answer :=
  congrArg Prod.fst h

theorem Run.call_of_perform (h : Run s src moves start past w) (hp : w.perform s src c = (answer, w')) :
    Run s src moves start (⟨w, c⟩ :: past) w' := by
  have hc := h.call c
  rwa [hp] at hc

/-- Each call of a run was made at the end of a run. -/
theorem Run.before_of_mem {r : Step} (h : Run s src moves start past w) (hr : r ∈ past) :
    ∃ past', Run s src moves start past' r.before := by
  induction h with
  | start => cases hr
  | call c h ih =>
    rcases List.mem_cons.1 hr with rfl | hr
    · exact ⟨_, h⟩
    · exact ih hr
  | sweep _ ih => exact ih hr
  | settle _ ih => exact ih hr
  | move _ _ ih => exact ih hr

end SignIn
