import SignIn.Passcode.Store
import SignIn.Service
import SignIn.Session.Store

/-! A deployment: a clock, accounts, the two stores in memory, and what has happened so far. -/

namespace SignIn

/-- What a deployment draws on: the values it mints, in order, and who carries its messages. -/
structure Sources where
  ids : Nat → String
  codes : Nat → Passcode.Draw
  salts : Nat → Password.Salt
  carrier : Carrier

structure World (δ : Type) where
  now : Int
  accounts : δ
  sessions : SessionStore := {}
  codes : PasscodeStore := []
  /-- how many ids, codes and salts were minted -/
  ids : Nat := 0
  draws : Nat := 0
  salts : Nat := 0
  /-- posted and not yet sent -/
  outbox : List Message := []
  log : List LogLine := []

namespace World

variable {δ α : Type} [AccountStore δ]

def write (w : World δ) (l : List LogLine) : World δ := { w with log := w.log ++ l }

def answer (src : Sources) (q : Query) (w : World δ) : Option q.Reply × World δ :=
  match q with
  | .clock => (some w.now, w)
  | .mintId => (some (src.ids w.ids), { w with ids := w.ids + 1 })
  | .drawCode => (some (src.codes w.draws), { w with draws := w.draws + 1 })
  | .drawSalt => (some (src.salts w.salts), { w with salts := w.salts + 1 })
  | .accounts c =>
    let (r, d, l) := AccountStore.answer c w.now w.accounts
    (r, { w with accounts := d }.write l)
  | .sessions c =>
    let (r, s) := w.sessions.answer c w.now
    (r, { w with sessions := s }.write (w.sessions.log c w.now))
  | .codes c =>
    let (r, s) := w.codes.answer c w.now
    (r, { w with codes := s })
  | .post m => (some (), { w with outbox := w.outbox ++ [m] })
  | .send m =>
    let (l, r) := src.carrier.send m
    (some r, w.write l)
  | .log l => (some (), w.write [l])

end World
end SignIn
