import SignIn.Settings.Conversion
import SignIn.Text.Split

/-! Settings written in TOML: keys with values, under headers that name sections. Texts of several lines and
dates are left out. -/

namespace SignIn.Toml

def isGap (c : Char) : Bool := c = ' ' || c = '\t'

def skipGaps (s : List Char) : List Char := s.dropWhile isGap

/-- Drops gaps, line ends and comments. -/
def skip (comment : Bool) : List Char → List Char
  | [] => []
  | c :: r =>
    if comment then skip (c ≠ '\n') r
    else if isGap c ∨ c = '\n' ∨ c = '\r' then skip false r
    else if c = '#' then skip true r
    else c :: r

/-- What follows a line that is over. -/
def lineEnd? (s : List Char) : Option (List Char) :=
  match skipGaps s with
  | [] => some []
  | '\n' :: r | '\r' :: '\n' :: r => some r
  | '#' :: r => some ((r.dropWhile (· ≠ '\n')).drop 1)
  | _ => none

def codePoint? (s : List Char) : Option Char := do
  let n := (← s.mapM Text.hexDigit?).foldl (fun n d => n * 16 + d) 0
  if n.isValidChar then some (.ofNat n) else none

def escaped? (c : Char) : Option Char :=
  [('b', '\x08'), ('t', '\t'), ('n', '\n'), ('f', '\x0c'), ('r', '\r'), ('"', '"'), ('\\', '\\')].lookup c

/-- The rest of a text between double quotes. -/
def quoted? : List Char → Option (List Char × List Char)
  | [] => none
  | '"' :: r => some ([], r)
  | '\\' :: 'u' :: a :: b :: c :: d :: r => do
    let x ← codePoint? [a, b, c, d]
    let (s, r) ← quoted? r
    return (x :: s, r)
  | '\\' :: 'U' :: a :: b :: c :: d :: e :: f :: g :: h :: r => do
    let x ← codePoint? [a, b, c, d, e, f, g, h]
    let (s, r) ← quoted? r
    return (x :: s, r)
  | '\\' :: c :: r => do
    let x ← escaped? c
    let (s, r) ← quoted? r
    return (x :: s, r)
  | c :: r =>
    if c.toNat < 32 ∧ c ≠ '\t' ∨ c = '\\' then none
    else do
      let (s, r) ← quoted? r
      return (c :: s, r)

def literal? : List Char → Option (List Char × List Char)
  | [] => none
  | c :: r =>
    if c = '\'' then some ([], r)
    else if c = '\n' then none
    else (literal? r).map fun (s, r) => (c :: s, r)

def isBare (c : Char) : Bool := c.isAlphanum || c = '_' || c = '-'

def name? (s : List Char) : Option (String × List Char) :=
  match s with
  | '"' :: r => (quoted? r).map fun (k, r) => (.ofList k, r)
  | '\'' :: r => (literal? r).map fun (k, r) => (.ofList k, r)
  | _ =>
    let k := s.takeWhile isBare
    if k = [] then none else some (.ofList k, s.dropWhile isBare)

/-- Names with points between them. -/
def key? : Nat → List Char → Option (List String × List Char)
  | 0, _ => none
  | n + 1, s => do
    let (k, r) ← name? (skipGaps s)
    match skipGaps r with
    | '.' :: r =>
      let (ks, r) ← key? n r
      return (k :: ks, r)
    | r => return ([k], r)

/-- Digits without the underscores between them. -/
def joined? (s : List Char) : Option (List Char) :=
  let l := Text.split '_' s
  let inner := l.length ≤ 1 ∨
    (l.dropLast.all fun p => p.getLast?.any Char.isAlphanum) ∧ (l.drop 1).all fun p => p.head?.any Char.isAlphanum
  if inner then some l.flatten else none

def radix? : List Char → Option (Nat × List Char)
  | '0' :: 'x' :: r => some (16, r)
  | '0' :: 'o' :: r => some (8, r)
  | '0' :: 'b' :: r => some (2, r)
  | _ => none

def number? (s : List Char) : Option Scalar := do
  let s ← joined? s
  match radix? s with
  | some (b, ds) =>
    let ds ← ds.mapM Text.hexDigit?
    let n := ds.foldl (fun n d => n * b + d) 0
    if ds = [] ∨ ds.any (b ≤ ·) then none else (int64? n).map .int
  | none =>
    let (_, r) := Text.sign s
    let whole := r.takeWhile Char.isDigit
    let isNamed := String.ofList r ∈ ["inf", "nan"]
    let isWhole := whole ≠ [] ∧ (whole.head? = some '0' → whole.length = 1)
    match r.dropWhile Char.isDigit with
    | [] => if isWhole then (int64? (← Text.integer? s)).map .int else none
    | '.' :: c :: _ => if isWhole ∧ c.isDigit then (Double.ofText? (.ofList s)).map .real else none
    | _ => if isNamed ∨ isWhole then (Double.ofText? (.ofList s)).map .real else none

def isWordChar (c : Char) : Bool := c.isAlphanum || c ∈ ['_', '+', '-', '.', ':']

def word? (s : List Char) : Option Scalar :=
  if s = "true".toList then some (.bool true)
  else if s = "false".toList then some (.bool false)
  else number? s

/-- Puts a value into a tree, in which there must be none in its place. -/
def insert? (v : SettingsTree) : List String → SettingsTree → Option SettingsTree
  | k :: r, .branch l o =>
    let t := SettingsTree.branch l o
    match r, t.get? k with
    | [], none => some (t.set k v)
    | [], some _ => none
    | r, sub => (insert? v r (sub.getD .empty)).map (t.set k)
  | _, _ => none

mutual

def value? (o : Option Origin) : Nat → List Char → Option (SettingsTree × List Char)
  | 0, _ => none
  | n + 1, s => match s with
    | '"' :: r => (quoted? r).map fun (s, r) => (.leaf (.text (.ofList s)) o, r)
    | '\'' :: r => (literal? r).map fun (s, r) => (.leaf (.text (.ofList s)) o, r)
    | '[' :: r => (items? o n (skip false r)).map fun (l, r) => (.items l o, r)
    | '\x7b' :: r => match skipGaps r with
      | '\x7d' :: r => some (.branch [] o, r)
      | r => members? o n (.branch [] o) r
    | s => (word? (s.takeWhile isWordChar)).map fun v => (.leaf v o, s.dropWhile isWordChar)

def items? (o : Option Origin) : Nat → List Char → Option (List SettingsTree × List Char)
  | 0, _ => none
  | n + 1, s => match s with
    | ']' :: r => some ([], r)
    | s => do
      let (v, r) ← value? o n s
      match skip false r with
      | ',' :: r => (items? o n (skip false r)).map fun (l, r) => (v :: l, r)
      | ']' :: r => some ([v], r)
      | _ => none

/-- One member or more, and the brace that closes them. -/
def members? (o : Option Origin) : Nat → SettingsTree → List Char → Option (SettingsTree × List Char)
  | 0, _, _ => none
  | n + 1, t, s => do
    let (t, r) ← member? o n t s
    match skipGaps r with
    | ',' :: r => members? o n t r
    | '\x7d' :: r => some (t, r)
    | _ => none

def member? (o : Option Origin) : Nat → SettingsTree → List Char → Option (SettingsTree × List Char)
  | 0, _, _ => none
  | n + 1, t, s => do
    let (k, r) ← key? s.length s
    match r with
    | '=' :: r =>
      let (v, r) ← value? o n (skipGaps r)
      return (← insert? v k t, r)
    | _ => none

end

/-- Puts a section's own members into a tree. A header may come after one of a section inside it. -/
def open? (headers : List (List String)) (path : List String) (t : SettingsTree) : Option SettingsTree :=
  match insert? .empty path t with
  | some t => some t
  | none => if path ∉ headers ∧ headers.any (path.isPrefixOf ·) then some t else none

def inSection (f : SettingsTree → Option SettingsTree) : List String → SettingsTree → Option SettingsTree
  | [], t => f t
  | k :: r, t => (inSection f r ((t.get? k).getD .empty)).map (t.set k)

def document? (o : Option Origin) : Nat → List (List String) → List String → SettingsTree → List Char →
    Option SettingsTree
  | 0, _, _, _, _ => none
  | n + 1, headers, path, t, s => match skip false s with
    | [] => some t
    | '[' :: r => do
      let (k, r) ← key? r.length r
      match r with
      | ']' :: r => document? o n (k :: headers) k (← open? headers k t) (← lineEnd? r)
      | _ => none
    | s => do
      let (k, r) ← key? s.length s
      match r with
      | '=' :: r =>
        let (v, r) ← value? o r.length (skipGaps r)
        document? o n headers path (← inSection (insert? v k) path t) (← lineEnd? r)
      | _ => none

/-- The sections and values of a document. -/
def read? (o : Option Origin) (s : String) : Option SettingsTree :=
  document? o (s.length + 1) [] [] .empty s.toList

end SignIn.Toml
