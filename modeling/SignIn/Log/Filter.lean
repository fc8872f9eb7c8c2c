import SignIn.Error
import SignIn.Log
import SignIn.Text.Alphanumeric
import SignIn.Text.Blank
import SignIn.Text.Digits
import SignIn.Text.Split

/-! Filters of the log: directives with a comma between them, each a level, a target or both, and perhaps a span
and fields. Of the directives for a target the most specific one says which levels are logged. -/

namespace SignIn

inductive FilterError where
  | level
  | directive
  deriving DecidableEq

def FilterError.message : FilterError → String
  | .level => "error parsing level filter: expected one of \"off\", \"error\", \"warn\", \"info\", \"debug\", " ++
      "\"trace\", or a number 0-5"
  | .directive => "invalid filter directive"

/-- How much is logged: nothing, or what is at least as grave as a level. -/
abbrev Verbosity := Option Level

/-- A field that a span has to have, by its name and perhaps with a value. -/
structure FilterField where
  name : String
  hasValue : Bool
  deriving DecidableEq

structure Directive where
  verbosity : Verbosity := some .trace
  target : Option String := none
  span : Option String := none
  fields : List FilterField := []
  deriving DecidableEq

namespace Verbosity

def all : List (String × Verbosity) :=
  [("off", none), ("error", some .error), ("warn", some .warn), ("info", some .info), ("debug", some .debug),
    ("trace", some .trace)]

/-- A name in any letter case, a number up to five, or nothing at all for errors only. -/
def ofText? (s : String) : Option Verbosity :=
  match Text.natural? s.toList with
  | some n => all[n]?.map (·.2)
  | none =>
    if s = "" then some (some .error)
    else all.lookup s.toLower

def rank : Verbosity → Nat
  | none => 0
  | some .error => 1
  | some .warn => 2
  | some .info => 3
  | some .debug => 4
  | some .trace => 5

end Verbosity

namespace Directive

/-- What is being read in a directive, and where it starts. -/
inductive Part where
  | nothing
  | word (start : Nat)
  | level (start : Nat)
  | span (start : Nat)
  | field (start : Nat)
  | fields
  | rest
  deriving DecidableEq

def isWordStart (c : Char) : Bool := c ∈ ['-', ':', '_'] || Text.isAlphanumeric c

def field? (s : List Char) : Except FilterError FilterField :=
  if s = [] then .error .directive
  else .ok ⟨.ofList (s.takeWhile (· ≠ '=')), s.contains '='⟩

/-- Reads the character at position `i`; `cut` gives what stands between two positions. -/
def step (cut : Nat → Nat → List Char) (p : Part) (d : Directive) (i : Nat) (c : Char) :
    Except FilterError (Part × Directive) :=
  match p with
  | .nothing =>
    if c = '[' then .ok (.span (i + 1), d)
    else if isWordStart c then .ok (.word i, d)
    else .error .directive
  | .word start =>
    let target := some (String.ofList (cut start i))
    if c = '=' then .ok (.level (i + 1), { d with target })
    else if c = '[' then .ok (.span (i + 1), { d with target })
    else .ok (p, d)
  | .level _ => .ok (p, d)
  | .span start =>
    let name := cut start i
    if c = ']' then .ok (.rest, { d with span := some (.ofList name) })
    else if c = '\x7b' then
      .ok (.field (i + 1), { d with span := if name = [] then none else some (.ofList name) })
    else .ok (p, d)
  | .field start =>
    if c = '\x7d' then (field? (cut start i)).map fun f => (.fields, { d with fields := d.fields ++ [f] })
    else .ok (p, d)
  | .fields => if c = ']' then .ok (.rest, d) else .error .directive
  | .rest => if c = '=' then .ok (.level (i + 1), d) else .error .directive

/-- A word that is no level is a target, of which everything is logged. -/
def finish (cut : Nat → List Char) (p : Part) (d : Directive) : Except FilterError Directive :=
  match p with
  | .word start =>
    let s := String.ofList (cut start)
    .ok <| match Verbosity.ofText? s with
      | some verbosity => { d with verbosity }
      | none => { d with target := some s }
  | .level start => match cut start with
    | [] => .ok d
    | s => match Verbosity.ofText? (.ofList s) with
      | some verbosity => .ok { d with verbosity }
      | none => .error .level
  | .rest => .ok d
  | _ => .error .directive

/-- Blanks at the ends are passed over, but positions are counted from the start of the text and the last part
goes to its end. -/
def ofText (s : String) : Except FilterError Directive := do
  let all := s.toList
  let cut (a b : Nat) := (all.drop a).take (b - a)
  let (p, d, _) ← (Text.trim s).toList.foldlM (fun (p, d, i) c => do
    let (p, d) ← step cut p d i c
    return (p, d, i + 1)) (Part.nothing, ({} : Directive), 0)
  finish (fun a => all.drop a) p d

/-- Whether a directive is about events of a target, wherever they happen. -/
def isAbout (d : Directive) (target : String) : Bool :=
  d.span.isNone && d.fields.isEmpty && d.target.all (target.startsWith ·)

def specificity (d : Directive) : Nat := (d.target.map fun t => t.utf8ByteSize + 1).getD 0

end Directive

structure LogFilter where
  directives : List Directive
  deriving DecidableEq

namespace LogFilter

def ofText (s : String) : Except FilterError LogFilter := do
  let parts := (Text.split ',' s.toList).filter (· ≠ [])
  return ⟨← parts.mapM fun p => Directive.ofText (.ofList p)⟩

/-- The most specific directive for a target; the later one of two for the same. -/
def directive? (f : LogFilter) (target : String) : Option Directive :=
  (f.directives.filter (·.isAbout target)).foldl (fun best d => match best with
    | some b => if b.specificity ≤ d.specificity then some d else best
    | none => some d) none

/-- Whether an event is logged. Without a directive for its target it is not. -/
def logs (f : LogFilter) (target : String) (level : Level) : Bool :=
  match f.directive? target with
  | some d => Verbosity.rank (some level) ≤ d.verbosity.rank
  | none => false

/-- The filter of the environment, unless there is none or it is wrong, or else the one given. -/
def choose (environment : Option String) (level : String) : Except FilterError LogFilter :=
  match environment.map ofText with
  | some (.ok f) => .ok f
  | _ => ofText level

/-- Sets up the log, which can be done only once. -/
def install (installed : Option LogFilter) (environment : Option String) (level : String) :
    Except ServiceError LogFilter :=
  match choose environment level, installed with
  | .error e, _ => .error (.configuration s!"invalid log filter {Text.quote level}: {e.message}")
  | .ok _, some _ =>
    .error (.internal "tracing init failed: a global default trace dispatcher has already been set")
  | .ok f, none => .ok f

end LogFilter
end SignIn
