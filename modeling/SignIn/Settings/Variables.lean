import SignIn.Settings.Conversion
import SignIn.Text.Split

/-! Settings in variables of the environment: `APP_` starts a name and two underscores stand between its keys, in
any letter case. -/

namespace SignIn

/-- Names and values; of two entries for a name the first counts. -/
abbrev Variables := List (String × String)

namespace Variables

def value? (v : Variables) (name : String) : Option String := Table.get? v name

/-- The Kelvin sign is a capital letter too. -/
def lower (c : Char) : Char := if c = '\u212a' then 'k' else c.toLower

def dotted : List Char → List Char
  | '_' :: '_' :: r => '.' :: dotted r
  | c :: r => c :: dotted r
  | [] => []

/-- The setting that a variable is for. -/
def key? (name : String) : Option String :=
  match name.toList.map lower with
  | 'a' :: 'p' :: 'p' :: '_' :: r => some (.ofList (dotted r))
  | _ => none

/-- What can be read as something else than a text is that. -/
def scalar (s : String) : Scalar :=
  if s.toLower = "true" then .bool true
  else if s.toLower = "false" then .bool false
  else match (Text.integer? s.toList).bind int64? with
    | some n => .int n
    | none => match Double.ofText? s with
      | some x => .real x
      | none => .text s

/-- What is for no setting is left out; of several variables for one setting the last counts. -/
def settings (v : Variables) : Table String SettingsTree :=
  .ofList (v.filterMap fun m => (key? m.1).map fun k => (k, .leaf (scalar m.2) (some .environment)))

end Variables
end SignIn
