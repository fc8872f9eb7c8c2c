import SignIn.Settings.Tree

/-! Places in a tree of settings: names after points, and positions between brackets. -/

namespace SignIn

inductive SettingsStep where
  | part (key : String)
  | item (n : Nat)
  deriving DecidableEq

abbrev SettingsPath := List SettingsStep

namespace SettingsPath

def isNameChar (c : Char) : Bool := c.isAlphanum || c = '_' || c = '-' || c = ' '

def name? (s : List Char) : Option (String × List Char) :=
  let n := s.takeWhile isNameChar
  if n = [] then none else some (.ofList n, s.dropWhile isNameChar)

def position? (s : List Char) : Option (Nat × List Char) :=
  let s := s.dropWhile (· = ' ')
  let ds := s.takeWhile Char.isDigit
  match (s.dropWhile Char.isDigit).dropWhile (· = ' ') with
  | ']' :: r => if ds = [] then none else some (Text.ofDigits ds, r)
  | _ => none

/-- The steps after the first one. -/
def steps? : Nat → List Char → Option SettingsPath
  | _, [] => some []
  | n + 1, '.' :: r => do
    let (k, r) ← name? r
    return .part k :: (← steps? n r)
  | n + 1, '[' :: r => do
    let (i, r) ← position? r
    return .item i :: (← steps? n r)
  | _, _ => none

/-- What is no path is a name as a whole. -/
def ofText (s : String) : SettingsPath :=
  let path? : Option SettingsPath := do
    let (k, r) ← name? s.toList
    return .part k :: (← steps? r.length r)
  path?.getD [.part s]

end SettingsPath

namespace SettingsTree

/-- Lays a value over what stands at the end of a path. What is missing on the way is made. -/
def place (v : SettingsTree) : SettingsPath → SettingsTree → SettingsTree
  | [], _ => v
  | [.part k], t => t.set k (v.lay (t.get? k))
  | .part k :: r, t => t.set k (place v r ((t.get? k).getD null))
  | .item n :: r, t =>
    let (l, o) := match t with
      | .items l o => (l, o)
      | _ => ([], none)
    let l := l ++ List.replicate (n + 1 - l.length) null
    .items (l.set n (place v r (l.getD n null))) o

/-- Lays named values over a tree, one after the other. -/
def layer (l : List (String × SettingsTree)) (t : SettingsTree) : SettingsTree :=
  l.foldl (fun t m => place m.2 (.ofText m.1) t) t

end SettingsTree
end SignIn
