import SignIn.Bytes
import SignIn.Text.Digits
import SignIn.Text.Split

/-! Addresses of resources: a scheme, mostly an authority (user, host and port), a path and a query. -/

namespace SignIn

inductive UrlError where
  | relative
  | emptyHost
  | port
  | domain
  | domainName
  | ipv4
  | ipv6
  deriving DecidableEq

def UrlError.message : UrlError → String
  | .relative => "relative URL without a base"
  | .emptyHost => "empty host"
  | .port => "invalid port number"
  | .domain => "invalid domain character"
  | .domainName => "invalid international domain name"
  | .ipv4 => "invalid IPv4 address"
  | .ipv6 => "invalid IPv6 address"

structure Url where
  scheme : String
  host : Option String
  port : Option Nat
  /-- from here on in the form that is sent -/
  path : String
  query : Option String
  deriving DecidableEq

namespace Url

/-- Schemes whose addresses always have a host. -/
def isSpecial (scheme : String) : Bool := scheme ∈ ["http", "https", "ws", "wss", "ftp"]

def isEdge (c : Char) : Bool := c.toNat ≤ 32

/-- Without control characters and blanks around the text, and without line breaks and tabs inside. -/
def clean (s : String) : List Char :=
  let l := (s.toList.dropWhile isEdge).reverse.dropWhile isEdge
  l.reverse.filter fun c => c ≠ '\t' ∧ c ≠ '\n' ∧ c ≠ '\r'

def scheme? (s : List Char) : Option (String × List Char) :=
  let isMark (c : Char) : Bool := c.isAlphanum || c = '+' || c = '-' || c = '.'
  match s.dropWhile isMark with
  | ':' :: r => if (s.head?.map Char.isAlpha).getD false then some ((String.ofList (s.takeWhile isMark)).toLower, r) else none
  | _ => none

def percent (b : UInt8) : List Char :=
  let d (n : Nat) : Char := if n < 10 then Char.ofNat (48 + n) else Char.ofNat (55 + n)
  ['%', d (b.toNat / 16), d (b.toNat % 16)]

/-- Writes an octet in hexadecimal if it is not to stand for itself. -/
def encode (reserved : List Char) (s : List Char) : List Char :=
  (Bytes.ofText (.ofList s)).flatMap fun b =>
    let c := Char.ofNat b.toNat
    if b ≤ 0x20 ∨ 0x7F ≤ b ∨ c ∈ reserved then percent b else [c]

def decode : List Char → Bytes
  | '%' :: a :: b :: r =>
    match Text.hexDigit? a, Text.hexDigit? b with
    | some x, some y => .ofNat (x * 16 + y) :: decode r
    | _, _ => 0x25 :: decode (a :: b :: r)
  | c :: r => Bytes.ofText (.ofList [c]) ++ decode r
  | [] => []

/-- A path segment that stands for the segment itself, or for the one above it. -/
def isDot (s : List Char) : Bool := s ∈ [".", "%2e", "%2E"].map String.toList

def isDots (s : List Char) : Bool :=
  [".", "%2e", "%2E"].any fun a => [".", "%2e", "%2E"].any fun b => s = (a ++ b).toList

/-- Follows the segments of a path, the last of which names a file. -/
def walk (up : List (List Char)) : List (List Char) → List (List Char)
  | [] => up.reverse
  | [s] =>
    if isDots s then (up.drop 1).reverse ++ [[]]
    else if isDot s then up.reverse ++ [[]]
    else (s :: up).reverse
  | s :: r => if isDots s then walk (up.drop 1) r else if isDot s then walk up r else walk (s :: up) r

def writePath (special : Bool) (s : List Char) : String :=
  let s := if special then s.map fun c => if c = '\\' then '/' else c else s
  let s := match s with
    | '/' :: r => r
    | r => r
  let segments := walk [] (Text.split '/' s)
  .ofList (segments.flatMap fun x => '/' :: encode ['"', '#', '<', '>', '?', '`', '\x7b', '\x7d'] x)

def writeQuery (special : Bool) (s : List Char) : String :=
  .ofList (encode (['"', '#', '<', '>'] ++ if special then ['\''] else []) s)

/-- A decimal port, or none. -/
def port? (s : List Char) : Except UrlError (Option Nat) :=
  if s = [] then .ok none
  else match (Text.digits? s).filter (· < UInt16.size) with
    | some n => .ok (some n)
    | none => .error .port

def numberPart? (s : List Char) : Option Nat :=
  let value (base : Nat) (l : List Char) : Option Nat := l.foldlM (fun n c => do
    let d ← Text.hexDigit? c
    if d < base then some (n * base + d) else none) 0
  match s with
  | [] => none
  | '0' :: 'x' :: r | '0' :: 'X' :: r => value 16 r
  | '0' :: r => value 8 r
  | r => value 10 r

/-- A host whose last label is a number is an address of four octets. -/
def ipv4 (labels : List (List Char)) : Except UrlError String :=
  match labels.mapM numberPart? with
  | none => .error .ipv4
  | some parts =>
    let last := parts.getLast?.getD 0
    let front := parts.dropLast
    if 4 < parts.length ∨ front.any (255 < ·) ∨ Nat.pow 256 (5 - parts.length) ≤ last then .error .ipv4
    else
      let n := front.zipIdx.foldl (fun n p => n + p.1 * Nat.pow 256 (3 - p.2)) last
      let octet (k : Nat) := toString (n / Nat.pow 256 k % 256)
      .ok s!"{octet 3}.{octet 2}.{octet 1}.{octet 0}"

def endsInNumber (labels : List (List Char)) : Bool :=
  match labels.getLast? with
  | none => false
  | some s => (s ≠ [] && s.all Char.isDigit) || (s.take 2 = ['0', 'x'] && (numberPart? s).isSome)

def isForbidden (c : Char) : Bool :=
  c.toNat ≤ 32 || c.toNat = 127 || c ∈ ['#', '/', ':', '<', '>', '?', '@', '[', '\\', ']', '^', '|']

/-- Groups of four hexadecimal digits, eight in all, of which one run of zeros may be left out. -/
def isIpv6 (s : List Char) : Bool :=
  let groups := Text.split ':' s
  let isGroup (g : List Char) := 0 < g.length && g.length ≤ 4 && g.all fun c => (Text.hexDigit? c).isSome
  let gaps := groups.countP (· = [])
  let full := groups.countP (· ≠ [])
  groups.all (fun g => g = [] || isGroup g) &&
    ((gaps = 0 && full = 8) ||
      (full ≤ 7 && ((gaps = 1 && (groups.drop 1).dropLast.any (· = [])) ||
        (gaps = 2 && (groups.take 2 = [[], []] || groups.reverse.take 2 = [[], []])) || (gaps = 3 && full = 0))))

def readHost (special : Bool) (s : List Char) : Except UrlError String :=
  match s with
  | '[' :: r =>
    if r.getLast? = some ']' ∧ isIpv6 r.dropLast then .ok (.ofList s) else .error .ipv6
  | s =>
    if special then
      match Bytes.text? (decode s) with
      | none => .error .domainName
      | some t =>
        let d := t.toLower.toList
        if d = [] then .error .emptyHost
        else if d.any fun c => isForbidden c || c = '%' then .error .domainName
        else
          let labels := Text.split '.' d
          let labels := if labels.getLast? = some [] then labels.dropLast else labels
          if endsInNumber labels then ipv4 labels else .ok (.ofList d)
    else if s.any isForbidden then .error .domain
    else .ok (.ofList s)

/-- Host and port are parted by the first colon outside of brackets. -/
def splitPort (s : List Char) : List Char × Option (List Char) :=
  let (front, rest) := if s.head? = some '[' ∧ ']' ∈ s then
      (s.takeWhile (· ≠ ']') ++ [']'], (s.dropWhile (· ≠ ']')).drop 1)
    else ([], s)
  match rest.dropWhile (· ≠ ':') with
  | [] => (front ++ rest, none)
  | _ :: p => (front ++ rest.takeWhile (· ≠ ':'), some p)

/-- What stands behind the last at sign, and whether there is one. -/
def dropUser (s : List Char) : List Char × Bool :=
  ((s.reverse.takeWhile (· ≠ '@')).reverse, '@' ∈ s)

def tail (special : Bool) (s : List Char) : List Char × Option String :=
  let s := s.takeWhile (· ≠ '#')
  match s.dropWhile (· ≠ '?') with
  | [] => (s, none)
  | _ :: q => (s.takeWhile (· ≠ '?'), some (writeQuery special q))

def withAuthority (scheme : String) (s : List Char) : Except UrlError Url := do
  let special := isSpecial scheme
  let isEnd (c : Char) : Bool := c = '/' || c = '?' || c = '#' || (special && c = '\\')
  let (authority, user) := dropUser (s.takeWhile (!isEnd ·))
  let (h, p) := splitPort authority
  let name ← readHost special h
  if h = [] ∧ (user ∨ p.isSome) then throw .emptyHost
  let port ← port? (p.getD [])
  let (path, query) := tail special (s.dropWhile (!isEnd ·))
  return ⟨scheme, some name, port, if path = [] ∧ !special then "" else writePath special path, query⟩

def parse (s : String) : Except UrlError Url :=
  match scheme? (clean s) with
  | none => .error .relative
  | some (scheme, r) =>
    if isSpecial scheme then withAuthority scheme (r.dropWhile fun c => c = '/' || c = '\\')
    else match r with
      | '/' :: '/' :: r => withAuthority scheme r
      | r =>
        let (path, query) := tail false r
        .ok ⟨scheme, none, none, .ofList (encode [] path), query⟩

/-- What is asked of the host. -/
def target (u : Url) : String := u.path ++ (u.query.map ("?" ++ ·)).getD ""

/-- Names and values of a query, in which a plus sign is a blank. -/
def parameters (u : Url) : List (String × String) :=
  let plain (s : List Char) : String :=
    (Bytes.text? (decode (s.map fun c => if c = '+' then ' ' else c))).getD ""
  match u.query with
  | none => []
  | some q => ((Text.split '&' q.toList).filter (· ≠ [])).map fun p =>
    (plain (p.takeWhile (· ≠ '=')), plain ((p.dropWhile (· ≠ '=')).drop 1))

end Url
end SignIn
