import SignIn.Base64
import SignIn.Text.Digits
import SignIn.Text.Split

/-! The written form of a password hash: an algorithm, its version and parameters, a salt and an output, each
behind a dollar sign. -/

namespace SignIn

structure Phc where
  algorithm : List Char
  version : Option Nat
  params : List (List Char × List Char)
  salt : List Char
  output : Bytes
  deriving DecidableEq

namespace Phc

def isIdent (s : List Char) : Bool :=
  0 < s.length && s.length ≤ 32 && s.all fun c => c.isLower || c.isDigit || c = '-'

def isValue (s : List Char) : Bool :=
  s.length ≤ 64 && s.all fun c => c.isAlphanum || c = '/' || c = '+' || c = '.' || c = '-'

/-- A number of 32 bits. -/
def number? (s : List Char) : Option Nat := (Text.decimal? s).filter (· < UInt32.size)

/-- The first field, if it is a version. -/
def readVersion : List (List Char) → Option (Option Nat × List (List Char))
  | ('v' :: '=' :: v) :: r =>
    if ',' ∈ v then some (none, ('v' :: '=' :: v) :: r) else (number? v).map fun n => (some n, r)
  | r => some (none, r)

def readParam (s : List Char) : Option (List Char × List Char) :=
  match Text.split '=' s with
  | [name, value] => if isIdent name ∧ isValue value then some (name, value) else none
  | _ => none

/-- The first field, if it holds parameters. -/
def readParams : List (List Char) → Option (List (List Char × List Char) × List (List Char))
  | f :: r =>
    if '=' ∉ f then some ([], f :: r)
    else if f.length ≤ 127 then ((Text.split ',' f).mapM readParam).map fun ps => (ps, r)
    else none
  | [] => some ([], [])

def ofText? (s : String) : Option Phc := do
  match Text.split '$' s.toList with
  | [] :: algorithm :: r =>
    let (version, r) ← readVersion r
    let (params, r) ← readParams r
    match r with
    | [salt, output] =>
      let output ← Base64.standard.decode? output
      if isIdent algorithm ∧ isValue salt ∧ 4 ≤ salt.length ∧ 10 ≤ output.length ∧ output.length ≤ 64 then
        some { algorithm, version, params, salt, output }
      else none
    | _ => none
  | _ => none

def printVersion : Option Nat → List Char
  | none => []
  | some n => ['$', 'v', '='] ++ Nat.toDigits 10 n

def printParams : List (List Char × List Char) → List Char
  | [] => []
  | ps => '$' :: [','].intercalate (ps.map fun p => p.1 ++ '=' :: p.2)

def print (h : Phc) : String :=
  .ofList ('$' :: h.algorithm ++ printVersion h.version ++ printParams h.params ++ '$' :: h.salt ++
    '$' :: Base64.standard.encode h.output)

end Phc
end SignIn
