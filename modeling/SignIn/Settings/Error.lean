import SignIn.Error
import SignIn.Text.Quoted

/-! Why settings are not accepted. -/

namespace SignIn

/-- Where a setting comes from. -/
inductive Origin where
  | environment
  | file (path : String)
  deriving DecidableEq

def Origin.text : Origin → String
  | .environment => "the environment"
  | .file path => path

inductive SettingsError where
  | frozen
  | notFound (property : String)
  | message (why : String)
  /-- a value of another type than the one it is for; what is made of several sources has no origin -/
  | mistyped (found wanted : String) (key : Option String) (origin : Option Origin)
  /-- a file that cannot be read as what it is -/
  | unreadable
  deriving DecidableEq

namespace SettingsError

def text : SettingsError → String
  | .frozen => "configuration is frozen"
  | .notFound property => s!"configuration property {Text.quote property} not found"
  | .message why => why
  | .mistyped found wanted key origin =>
    let key := (key.map fun k => s!" for key `{k}`").getD ""
    let origin := (origin.map fun o => s!" in {o.text}").getD ""
    s!"invalid type: {found}, expected {wanted}{key}{origin}"
  | .unreadable => "unreadable file"

/-- The error of a part as an error of the whole. -/
def within (key : String) : SettingsError → SettingsError
  | .mistyped found wanted k origin =>
    let rest := match k with
      | none => ""
      | some k => if k.startsWith "[" then k else "." ++ k
    .mistyped found wanted (some (key ++ rest)) origin
  | e => e

def toService (e : SettingsError) : ServiceError := .configuration e.text

end SettingsError
end SignIn
