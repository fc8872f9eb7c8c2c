import SignIn.Json.Buffer
import SignIn.Json.Double
import SignIn.Json.Reader
import SignIn.Settings.Toml

/-! Files of settings: which file there is for a name, and what it holds. -/

namespace SignIn

namespace SettingsTree

def ofInt? (n : Int) : Option Scalar :=
  match int64? n with
  | some n => some (.int n)
  | none => (Json.scaled? (n < 0) n.natAbs 0).map .real

mutual

def ofJson? (o : Option Origin) : Json → Option SettingsTree
  | .null => some (.leaf .null o)
  | .bool b => some (.leaf (.bool b) o)
  | .int n => (ofInt? n).map fun v => .leaf v o
  | .real s m e => (Json.scaled? s m e).map fun x => .leaf (.real x) o
  | .text s => s.text?.map fun s => .leaf (.text s) o
  | .array l => (itemsOfJson? o l).map fun l => .items l o
  | .object l => membersOfJson? o (.branch [] o) l

def itemsOfJson? (o : Option Origin) : List Json → Option (List SettingsTree)
  | [] => some []
  | v :: r => do return (← ofJson? o v) :: (← itemsOfJson? o r)

/-- Of two members of one name the later one counts. -/
def membersOfJson? (o : Option Origin) (t : SettingsTree) : List (Pieces × Json) → Option SettingsTree
  | [] => some t
  | (k, v) :: r => do membersOfJson? o (t.set (← k.text?) (← ofJson? o v)) r

end

end SettingsTree

/-- The formats of files that are covered. Left out are YAML, INI, RON and JSON5, which a file of settings may be
written in as well. -/
inductive FileFormat where
  | json
  | toml
  deriving DecidableEq

namespace FileFormat

/-- In the order in which files of a name are looked for. -/
def all : List FileFormat := [.toml, .json]

def suffix : FileFormat → String
  | .json => "json"
  | .toml => "toml"

/-- The sections of a file. A file that holds no sections counts as empty. -/
def read? (f : FileFormat) (path content : String) : Option SettingsTree :=
  let o := some (Origin.file path)
  match f with
  | .toml => Toml.read? o content
  | .json => do
    let v ← Json.ofBytes? (Bytes.ofText content)
    if v.depth ≤ Json.maxDepth then SettingsTree.ofJson? o v else none

end FileFormat

/-- Paths and contents. -/
abbrev Files := List (String × String)

namespace Files

/-- A path without detours. -/
def plain (path : String) : List (List Char) :=
  (Text.split '/' path.toList).foldl (fun l p =>
    if p = [] ∨ p = ['.'] then l else if p = ['.', '.'] then l.dropLast else l ++ [p]) []

def join (l : List (List Char)) : String := .ofList (List.intercalate ['/'] l)

/-- What follows the last point of a name, unless it is the first character. -/
def suffix? (name : List Char) : Option String :=
  match (Text.split '.' name).reverse with
  | s :: p :: r => if p = [] ∧ r = [] then none else some (.ofList s)
  | _ => none

/-- The file of a name: as it is, if there is one, or else with a known suffix. -/
def named? (files : Files) (name : String) : Option (FileFormat × String × String) :=
  let path := plain name
  let file (p : String) : Option (String × String) := List.find? (fun m => m.1 = p) files
  match path.getLast?, file (join path) with
  | none, _ => none
  | some last, some m => (FileFormat.all.find? fun f => suffix? last = some f.suffix).map fun f => (f, m)
  | _, none => FileFormat.all.findSome? fun f => (file (s!"{join path}.{f.suffix}")).map fun m => (f, m)

/-- The settings in the file of a name; a missing file has none. -/
def settings (files : Files) (name : String) : Except SettingsError (List (String × SettingsTree)) :=
  match files.named? name with
  | none => .ok []
  | some (f, path, content) => match f.read? path content with
    | none => .error .unreadable
    | some t => .ok t.parts

end Files
end SignIn
