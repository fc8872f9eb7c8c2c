/-! Keyed lists: at most one entry a key, the latest first. -/

namespace SignIn

abbrev Table (κ α : Type) := List (κ × α)

namespace Table

variable {κ α : Type} [DecidableEq κ]

def get? (t : Table κ α) (k : κ) : Option α := (t.find? (·.1 = k)).map (·.2)

def erase (t : Table κ α) (k : κ) : Table κ α := t.filter (·.1 ≠ k)

def insert (t : Table κ α) (k : κ) (a : α) : Table κ α := (k, a) :: t.erase k

/-- Of several entries for a key the last counts. -/
def ofList (l : List (κ × α)) : Table κ α := l.foldl (fun t e => t.insert e.1 e.2) []

/-- Changes the entry of `k` where it stands; an absent one is created from nothing. -/
def alter (f : Option α → Option α) (k : κ) : Table κ α → Table κ α
  | [] => ((f none).map fun a => (k, a)).toList
  | (k', a) :: t =>
    if k' = k then ((f (some a)).map fun a => (k, a)).toList ++ t else (k', a) :: alter f k t

def keys (t : Table κ α) : List κ := t.map (·.1)

@[simp] theorem get?_insert_self (t : Table κ α) (k : κ) (a : α) : (t.insert k a).get? k = some a := by
  simp [insert, get?]

@[simp] theorem get?_erase_self (t : Table κ α) (k : κ) : (t.erase k).get? k = none := by
  simp [erase, get?, List.find?_filter]

theorem get?_erase_of_ne (t : Table κ α) {k k' : κ} (h : k' ≠ k) : (t.erase k).get? k' = t.get? k' := by
  simp only [erase, get?, List.find?_filter]
  congr 2
  funext p
  by_cases hp : p.1 = k' <;> simp_all

theorem get?_insert_of_ne (t : Table κ α) {k k' : κ} (a : α) (h : k' ≠ k) :
    (t.insert k a).get? k' = t.get? k' := by
  rw [← get?_erase_of_ne t h]
  simp [insert, get?, Ne.symm h]

end Table
end SignIn
