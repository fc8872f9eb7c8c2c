import SignIn.Double.Text
import SignIn.Settings.Error
import SignIn.Table

/-! Settings as they are given: a tree of sections. Trees are laid over each other key by key. -/

namespace SignIn

/-- A value as it is written. -/
inductive Scalar where
  | null
  | bool (b : Bool)
  | int (n : Int64)
  | real (x : Double)
  | text (s : String)
  deriving DecidableEq

inductive SettingsTree where
  | leaf (v : Scalar) (origin : Option Origin)
  | items (l : List SettingsTree) (origin : Option Origin)
  | branch (l : List (String × SettingsTree)) (origin : Option Origin)
  deriving Inhabited

namespace SettingsTree

def empty : SettingsTree := .branch [] none

def null : SettingsTree := .leaf .null none

def origin : SettingsTree → Option Origin
  | .leaf _ o | .items _ o | .branch _ o => o

/-- The parts of a section; what is no section has none. -/
def parts : SettingsTree → Table String SettingsTree
  | .branch l _ => l
  | _ => []

def get? (t : SettingsTree) (k : String) : Option SettingsTree := Table.get? t.parts k

/-- What is no section becomes one. -/
def set (t : SettingsTree) (k : String) (v : SettingsTree) : SettingsTree :=
  match t with
  | .branch l o => .branch (Table.insert l k v) o
  | _ => .branch [(k, v)] none

mutual

/-- A section is laid over what is there, key by key; anything else takes its place. -/
def lay (t : SettingsTree) (under : Option SettingsTree) : SettingsTree :=
  match t with
  | .branch l _ => layAll l (under.getD empty)
  | t => t

def layAll (l : List (String × SettingsTree)) (t : SettingsTree) : SettingsTree :=
  match l with
  | [] => t
  | (k, v) :: r => layAll r (t.set k (v.lay (t.get? k)))

end

@[simp] theorem get?_set_self (t : SettingsTree) (k : String) (v : SettingsTree) : (t.set k v).get? k = some v := by
  cases t
  case branch l o => exact Table.get?_insert_self l k v
  all_goals simp [set, get?, parts, Table.get?]

theorem get?_set_of_ne (t : SettingsTree) {k k' : String} (v : SettingsTree) (h : k' ≠ k) :
    (t.set k v).get? k' = t.get? k' := by
  cases t
  case branch l o => exact Table.get?_insert_of_ne l v h
  all_goals simp [set, get?, parts, Table.get?, Ne.symm h]

end SettingsTree
end SignIn
