import SignIn.Passcode
import SignIn.Table

/-! The codes that are out, at most one for an address of a channel. A code past its deadline counts as absent. -/

namespace SignIn

inductive PasscodeCall where
  | save (p : Passcode) (ttl : Int)
  | get (c : Channel) (address : String)
  | delete (c : Channel) (address : String)
  | purge
  deriving DecidableEq

abbrev PasscodeCall.Answer : PasscodeCall → Type
  | .save .. => Unit
  | .get .. => Passcode
  | .delete .. => Unit
  | .purge => Nat

abbrev PasscodeStore := Table (Channel × String) (Expiring Passcode)

namespace PasscodeStore

def live? (s : PasscodeStore) (now : Int) (c : Channel) (address : String) : Option Passcode :=
  (s.get? (c, address)).bind (·.live? now)

/-- Keeps a code where none is out. Without a place in the calendar for its deadline there is no answer. -/
def save (s : PasscodeStore) (now : Int) (p : Passcode) (ttl : Int) :
    Option (Except StoreError Unit) × PasscodeStore :=
  match s.live? now p.channel p.address with
  | some _ => (some (.error .alreadyExists), s)
  | none => match Expiring.until? now ttl p with
    | none => (none, s)
    | some e => (some (.ok ()), s.insert (p.channel, p.address) e)

def get (s : PasscodeStore) (now : Int) (c : Channel) (address : String) : Except StoreError Passcode :=
  match s.live? now c address with
  | none => .error .notFound
  | some p => .ok p

def delete (s : PasscodeStore) (c : Channel) (address : String) : PasscodeStore := s.erase (c, address)

/-- Drops what has expired, and says how much that was. -/
def purge (s : PasscodeStore) (now : Int) : Nat × PasscodeStore :=
  let kept := s.filter fun e => !e.2.isExpired now
  (s.length - kept.length, kept)

def answer (c : PasscodeCall) (now : Int) (s : PasscodeStore) :
    Option (Except StoreError c.Answer) × PasscodeStore :=
  match c with
  | .save p ttl => s.save now p ttl
  | .get c a => (some (s.get now c a), s)
  | .delete c a => (some (.ok ()), s.delete c a)
  | .purge => ((s.purge now).map (some ∘ .ok) id)

end PasscodeStore
end SignIn
