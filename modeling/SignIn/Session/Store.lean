import SignIn.Error
import SignIn.Log
import SignIn.Session
import SignIn.Table

/-! The sessions that are kept, with an index of them by user. The index may name sessions that have expired;
listing drops those. -/

namespace SignIn

structure SessionStore where
  records : Table String (Expiring Session) := []
  index : Table UserId (List String) := []
  deriving DecidableEq

namespace SessionStore

/-- A user without members has no entry. -/
def unindex (s : SessionStore) (user : UserId) (jti : String) : SessionStore :=
  { s with index := s.index.alter (fun m => (m.map (·.filter (· ≠ jti))).filter (· ≠ [])) user }

def enter (s : SessionStore) (jti : String) (e : Expiring Session) : SessionStore where
  records := s.records.insert jti e
  index := s.index.alter (fun m => some (jti :: (m.getD []).filter (· ≠ jti))) e.value.userId

/-- Drops a record, and its owner's index entry with it. -/
def remove (s : SessionStore) (jti : String) : SessionStore :=
  match s.records.get? jti with
  | none => s
  | some e => { s with records := s.records.erase jti }.unindex e.value.userId jti

def live? (s : SessionStore) (now : Int) (jti : String) : Option Session :=
  (s.records.get? jti).bind (·.live? now)

/-- Replaces what was kept under the name. Without a place in the calendar for the deadline there is no answer. -/
def create (s : SessionStore) (now : Int) (jti : String) (session : Session) (ttl : Int) :
    Option (Except StoreError Unit) × SessionStore :=
  if jti = "" then (some (.error (.internal "empty session key")), s)
  else
    let s := s.remove jti
    match Expiring.until? now ttl { session with jti } with
    | none => (none, s)
    | some e => (some (.ok ()), s.enter jti e)

def get (s : SessionStore) (now : Int) (jti : String) : Except StoreError Session :=
  match s.live? now jti with
  | none => .error .notFound
  | some x => .ok x

def members (s : SessionStore) (user : UserId) : List String := (s.index.get? user).getD []

/-- The members of a user's index entry that no longer stand for a session. -/
def stale (s : SessionStore) (now : Int) (user : UserId) : List String :=
  (s.members user).filter fun jti => (s.live? now jti).isNone

def prune (user : UserId) (s : SessionStore) (jti : String) : SessionStore :=
  { s with records := s.records.erase jti }.unindex user jti

/-- A user's sessions, the oldest first. -/
def list (s : SessionStore) (now : Int) (user : UserId) : List Session × SessionStore :=
  (((s.members user).filterMap (s.live? now)).mergeSort fun a b => a.createdAt ≤ b.createdAt,
    (s.stale now user).foldl (prune user) s)

def delete (s : SessionStore) (now : Int) (jti : String) : Except StoreError Unit × SessionStore :=
  match s.records.get? jti with
  | none => (.error .notFound, s)
  | some e => (if e.isExpired now then .error .notFound else .ok (), s.remove jti)

/-- Drops what has expired, from the index too, and says how many records that were. -/
def purge (s : SessionStore) (now : Int) : Nat × SessionStore :=
  let kept : Table String (Expiring Session) := s.records.filter fun e => !e.2.isExpired now
  let index := s.index.filterMap fun e =>
    let members := e.2.filter fun jti => (kept.get? jti).isSome
    if members = [] then none else some (e.1, members)
  (s.records.length - kept.length, ⟨kept, index⟩)

/-- What a call leaves in the log. -/
def log (c : SessionCall) (now : Int) (s : SessionStore) : List LogLine :=
  match c with
  | .list user => (s.stale now user).map fun jti =>
    ⟨.debug, s!"Pruning stale session {jti} from index of user {user}", []⟩
  | _ => []

def answer (c : SessionCall) (now : Int) (s : SessionStore) :
    Option (Except StoreError c.Answer) × SessionStore :=
  match c with
  | .create jti x ttl => s.create now jti x ttl
  | .get jti => (some (s.get now jti), s)
  | .list user => (s.list now user).map (some ∘ .ok) id
  | .delete jti => (s.delete now jti).map some id
  | .purge => (s.purge now).map (some ∘ .ok) id

end SessionStore
end SignIn
