import SignIn.Channel
import SignIn.Log

/-! Messages to people, and who carries them. -/

namespace SignIn

inductive Message where
  | sms (address body : String)
  | mail (address subject body : String)
  deriving DecidableEq

namespace Message

def channel : Message → Channel
  | .sms .. => .phone
  | .mail .. => .email

def address : Message → String
  | .sms a _ => a
  | .mail a .. => a

def body : Message → String
  | .sms _ b => b
  | .mail _ _ b => b

/-- A message with a code, over the channel that the code is to confirm. -/
def ofCode (service : String) (c : Channel) (address code : String) : Message :=
  let body := s!"Your verify code is: {code}"
  match c with
  | .phone => .sms address body
  | .email => .mail address s!"Verify code for {service}" body

end Message

/-- Takes messages, and may log what it does with them. -/
structure Carrier where
  send : Message → List LogLine × Except DeliveryError Unit

/-- Logs messages in place of sending them. -/
def Carrier.log : Carrier where
  send m :=
    let len := ("len", toString m.body.utf8ByteSize)
    let line : LogLine := match m with
      | .sms a _ => ⟨.info, "sms delivery stub", [("to", a), len]⟩
      | .mail a s _ => ⟨.info, "mail delivery stub", [("to", a), ("subject", s), len]⟩
    ([line], .ok ())

/-- Takes every message without a word. -/
def Carrier.quiet : Carrier where
  send _ := ([], .ok ())

end SignIn
