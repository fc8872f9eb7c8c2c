import SignIn.Settings
import SignIn.Settings.Tree
import SignIn.Text.Digits
import SignIn.Text.Quoted

/-! Settings read from a tree: each value is made what its field needs, as far as that can be done. -/

namespace SignIn

/-- A word that means one or zero. -/
def word? (s : String) : Option Bool :=
  let s := s.toLower
  if s ∈ ["true", "on", "yes"] then some true
  else if s ∈ ["false", "off", "no"] then some false
  else none

namespace SettingsTree

/-- What a value is, for messages. -/
def kind : SettingsTree → String
  | .leaf .null _ => "unit value"
  | .leaf (.bool b) _ => s!"boolean `{b}`"
  | .leaf (.int n) _ => s!"integer 64 bit `{n}`"
  | .leaf (.real x) _ => s!"floating point `{x.text}`"
  | .leaf (.text s) _ => s!"string {Text.quote s}"
  | .items .. => "sequence"
  | .branch .. => "map"

/-- The same where a section is expected. -/
def sectionKind : SettingsTree → String
  | .leaf (.int n) _ => s!"integer `{n}`"
  | .leaf (.real x) _ =>
    let s := x.text
    let point := match x with
      | .finite .. => if s.contains '.' then "" else ".0"
      | _ => ""
    s!"floating point `{s}{point}`"
  | t => t.kind

def mistyped {α : Type} (t : SettingsTree) (wanted : String) : Except SettingsError α :=
  .error (.mistyped t.kind wanted none t.origin)

def boolean (b : Bool) : Nat := if b then 1 else 0

def int (t : SettingsTree) : Except SettingsError Int64 :=
  match t with
  | .leaf (.int n) _ => .ok n
  | .leaf (.bool b) _ => .ok (.ofNat (boolean b))
  | .leaf (.real x) _ => .ok (.ofInt (x.round Int64.minValue.toInt Int64.maxValue.toInt))
  | .leaf (.text s) _ => match word? s, (Text.integer? s.toList).bind int64? with
    | some b, _ => .ok (.ofNat (boolean b))
    | none, some n => .ok n
    | none, none => t.mistyped "an integer"
  | t => t.mistyped "an integer"

def natural (t : SettingsTree) : Except SettingsError UInt64 :=
  match t with
  | .leaf (.int n) _ =>
    if n < 0 then t.mistyped "an unsigned 64 bit or less integer" else .ok (.ofNat n.toInt.toNat)
  | .leaf (.bool b) _ => .ok (.ofNat (boolean b))
  | .leaf (.real x) _ => .ok (.ofNat (x.round 0 (UInt64.size - 1)).toNat)
  | .leaf (.text s) _ => match word? s, (Text.natural? s.toList).filter (· < UInt64.size) with
    | some b, _ => .ok (.ofNat (boolean b))
    | none, some n => .ok (.ofNat n)
    | none, none => t.mistyped "an integer"
  | t => t.mistyped "an integer"

/-- Only the low half of a number is kept. -/
def half (t : SettingsTree) : Except SettingsError UInt32 := do return (← t.natural).toUInt32

def text (t : SettingsTree) : Except SettingsError String :=
  match t with
  | .leaf (.text s) _ => .ok s
  | .leaf (.bool b) _ => .ok (toString b)
  | .leaf (.int n) _ => .ok (toString n)
  | .leaf (.real x) _ => .ok x.text
  | t => t.mistyped "a string"

def optional {α : Type} (read : SettingsTree → Except SettingsError α) (t : SettingsTree) :
    Except SettingsError (Option α) :=
  match t with
  | .leaf .null _ => .ok none
  | t => (read t).map some

end SettingsTree

/-- A section, whose fields stand under their names or in their order. -/
structure SettingsSection where
  name : String
  fields : List String
  tree : SettingsTree

namespace SettingsSection

/-- What stands in a field, and the field's place. -/
def part? (s : SettingsSection) (field : String) : Option (SettingsTree × String) :=
  match s.tree with
  | .items l _ =>
    let n := s.fields.idxOf field
    l[n]?.map fun t => (t, s!"[{n}]")
  | t => (t.get? field).map fun t => (t, field)

def isList (s : SettingsSection) : Bool := s.tree matches .items ..

def missing (s : SettingsSection) (field : String) : SettingsError :=
  match s.tree with
  | .items l _ =>
    .message s!"invalid length {l.length}, expected struct {s.name} with {s.fields.length} elements"
  | _ => .message s!"missing field `{field}`"

end SettingsSection

/-- Fields that are read from a section. First all that is there has to be of the right type; the inner error is
that something is not there. -/
structure SettingsFields (α : Type) where
  names : List String
  read : SettingsSection → Except SettingsError (Except SettingsError α)

namespace SettingsFields

instance : Functor SettingsFields where
  map f x := ⟨x.names, fun s => (x.read s).map (·.map f)⟩

instance : Seq SettingsFields where
  seq f x := ⟨f.names ++ (x ()).names, fun s => do
    let f ← f.read s
    let a ← (x ()).read s
    return do return (← f) (← a)⟩

def field {α : Type} (name : String) (read : SettingsTree → Except SettingsError α) : SettingsFields α where
  names := [name]
  read s := match s.part? name with
    | none => .ok (.error (s.missing name))
    | some (t, key) => ((read t).mapError (·.within key)).map .ok

/-- A field that may be absent, though not from a sequence. -/
def optionalField {α : Type} (name : String) (read : SettingsTree → Except SettingsError α) :
    SettingsFields (Option α) where
  names := [name]
  read s :=
    if (s.part? name).isNone ∧ !s.isList then .ok (.ok none) else (field name (SettingsTree.optional read)).read s

def ofTree {α : Type} (x : SettingsFields α) (name : String) (t : SettingsTree) : Except SettingsError α :=
  match t with
  | .leaf .. => .error (.message s!"invalid type: {t.sectionKind}, expected struct {name}")
  | t => do ← x.read ⟨name, x.names, t⟩

end SettingsFields

open SettingsFields SettingsTree

def DatabaseSettings.ofTree : SettingsTree → Except SettingsError DatabaseSettings :=
  (DatabaseSettings.mk <$> field "url" text <*> field "max_connections" half
    <*> field "connect_timeout_secs" natural).ofTree "DatabaseConfig"

def AuthSettings.ofTree : SettingsTree → Except SettingsError AuthSettings :=
  (AuthSettings.mk <$> field "jwt_secret" text <*> field "issuer" text <*> field "access_token_ttl_minutes" int
    <*> field "refresh_token_ttl_hours" int <*> field "otp_ttl_minutes" int <*> field "default_role_id" int
    <*> field "sweep_interval_secs" natural).ofTree "AuthConfig"

def NotificationSettings.ofTree : SettingsTree → Except SettingsError NotificationSettings :=
  (NotificationSettings.mk <$> field "service_name" text <*> optionalField "smsc_host" text
    <*> optionalField "smsc_user" text <*> optionalField "smsc_password" text
    <*> optionalField "mail_from" text).ofTree "NotificationConfig"

def Settings.ofTree : SettingsTree → Except SettingsError Settings :=
  (Settings.mk <$> field "environment" text <*> field "database" DatabaseSettings.ofTree
    <*> field "auth" AuthSettings.ofTree <*> field "notifications" NotificationSettings.ofTree).ofTree "Settings"

end SignIn
