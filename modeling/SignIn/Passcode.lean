import SignIn.Channel
import SignIn.Clock
import SignIn.Text.Padded
import SignIn.Token.Claims

/-! One-time codes, which prove that somebody reads what is sent to an address. -/

namespace SignIn

structure Passcode where
  code : String
  channel : Channel
  address : String
  userId : UserId
  createdAt : Int
  expiresAt : Int
  deriving DecidableEq

namespace Passcode

abbrev Draw := Fin 1000000

/-- Six digits. -/
def codeText (n : Draw) : String := Text.padded 6 n.val

/-- Good for `ttl` from now on; nothing where the calendar ends before. -/
def draw? (n : Draw) (now ttl : Int) (channel : Channel) (address : String) (userId : UserId) :
    Option Passcode :=
  (Instant.after? now ttl).map fun t => ⟨codeText n, channel, address, userId, now, t⟩

def isExpired (p : Passcode) (now : Int) : Bool := p.expiresAt ≤ now

def accepts (p : Passcode) (candidate : String) : Bool := p.code = candidate

end Passcode
end SignIn
