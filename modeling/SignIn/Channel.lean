import SignIn.Error

/-! The two ways to reach a person, each with addresses of its own. -/

namespace SignIn

inductive Channel where
  | phone
  | email
  deriving DecidableEq

namespace Channel

def name : Channel → String
  | .phone => "phone"
  | .email => "email"

def ofName (s : String) : Except ServiceError Channel :=
  if s = "phone" then .ok .phone else if s = "email" then .ok .email else .error (.unsupportedPurpose s)

/-- What an address of the channel is called. -/
def label : Channel → String
  | .phone => "phone number"
  | .email => "email"

@[simp] theorem ofName_name (c : Channel) : ofName c.name = .ok c := by cases c <;> rfl

end Channel
end SignIn
