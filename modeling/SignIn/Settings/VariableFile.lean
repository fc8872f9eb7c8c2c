import SignIn.Settings.Variables
import SignIn.Text.Alphanumeric
import SignIn.Text.Blank

/-! A file of variables, one a line: `NAME=value`, with quotes, escapes, references to other variables and
comments. What the environment has already is not changed, and reading ends at the first line that is wrong. -/

namespace SignIn.VariableFile

/-- What is read in a value, character by character. -/
inductive Mode where
  | plain
  | quoted
  /-- between single quotes -/
  | literal
  /-- after a backslash, in double quotes or not -/
  | escape (quoted : Bool)
  /-- the name of a variable after a dollar sign, or between braces -/
  | reference (name : List Char) (quoted : Bool)
  | braced (name : List Char) (quoted : Bool)
  /-- after a value -/
  | done

def Mode.outside (quoted : Bool) : Mode := if quoted then .quoted else .plain

def isGap (c : Char) : Bool := c = ' ' || c = '\t'

/-- The value written in a text, given those of the variables before it. -/
def value? (lookup : String → String) : Mode → List Char → Option (List Char)
  | .quoted, [] | .literal, [] | .braced .., [] | .escape true, [] | .reference _ true, [] => none
  | .reference name false, [] => some (lookup (.ofList name)).toList
  | _, [] => some []
  | .done, c :: r => if isGap c then value? lookup .done r else if c = '#' then some [] else none
  | .escape q, c :: r =>
    if c ∈ ['\\', '\'', '"', '$', ' '] then (value? lookup (.outside q) r).map (c :: ·)
    else if c = 'n' then (value? lookup (.outside q) r).map ('\n' :: ·)
    else none
  | .literal, c :: r =>
    if c = '\'' then value? lookup .plain r else (value? lookup .literal r).map (c :: ·)
  | .reference name q, c :: r =>
    if Text.isAlphanumeric c then value? lookup (.reference (name ++ [c]) q) r
    else if c = '\x7b' ∧ name = [] then value? lookup (.braced [] q) r
    else
      let found := (lookup (.ofList name)).toList
      if c = '$' then (value? lookup (.reference [] q) r).map (found ++ ·)
      else (value? lookup (.outside q) r).map (found ++ c :: ·)
  | .braced name q, c :: r =>
    if c = '\x7d' then (value? lookup (.outside q) r).map ((lookup (.ofList name)).toList ++ ·)
    else value? lookup (.braced (name ++ [c]) q) r
  | .quoted, c :: r =>
    if c = '$' then value? lookup (.reference [] true) r
    else if c = '"' then value? lookup .plain r
    else if c = '\\' then value? lookup (.escape true) r
    else (value? lookup .quoted r).map (c :: ·)
  | .plain, c :: r =>
    if c = '$' then value? lookup (.reference [] false) r
    else if c = '\'' then value? lookup .literal r
    else if c = '"' then value? lookup .quoted r
    else if c = '\\' then value? lookup (.escape false) r
    else if isGap c then value? lookup .done r
    else (value? lookup .plain r).map (c :: ·)

def isNameStart (c : Char) : Bool := c.isAlpha || c = '_'

def isNameChar (c : Char) : Bool := c.isAlphanum || c = '_' || c = '.'

/-- A name, and what follows the blanks after it. -/
def name? (s : List Char) : Option (List Char × List Char) :=
  if s.head?.any isNameStart then some (s.takeWhile isNameChar, Text.trimStart (s.dropWhile isNameChar)) else none

def afterEqual? : List Char → Option (List Char)
  | '=' :: r => some (Text.trimStart r)
  | _ => none

/-- The name that a line gives a value, and the value as it is written. A line may start with `export`. -/
def assignment? (s : List Char) : Option (List Char × List Char) := do
  let (name, r) ← name? s
  match afterEqual? r with
  | some r => return (name, r)
  | none =>
    if name = "export".toList then
      let (name, r) ← name? r
      return (name, ← afterEqual? r)
    else none

/-- Nothing on a line, a variable and its value, or something that is neither. -/
def line (lookup : String → String) (s : List Char) : Option (Option (String × String)) :=
  let s := Text.trimStart (Text.trimEnd s)
  let isNothing (s : List Char) : Bool := s.head?.all (· = '#')
  if isNothing s then some none
  else do
    let (name, r) ← assignment? s
    let v ← if isNothing r then some [] else value? lookup .plain r
    return some (.ofList name, .ofList v)

/-- Reads line after line. -/
def readLines (v : Variables) : List (List Char) → Variables
  | [] => v
  | s :: r => match line (fun name => (v.value? name).getD "") s with
    | none => v
    | some none => readLines v r
    | some (some m) => readLines (if (v.value? m.1).isSome then v else v ++ [m]) r

def read (v : Variables) (file : String) : Variables := readLines v (Text.split '\n' file.toList)

end SignIn.VariableFile
