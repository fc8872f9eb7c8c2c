import SignIn.Json

/-! Values that are taken whole, before it is known what they are for. Taking one fails at the first string that
is no text, or where the nesting is too deep; the reader then stands past the value only if nothing follows what
failed. -/

namespace SignIn

inductive Taken where
  | whole
  | refused
  /-- refused, and the reader is left inside -/
  | lost
  deriving DecidableEq

def Pieces.taken (s : Pieces) : Taken :=
  if s.text?.isSome then .whole else if s.bytes?.isSome then .refused else .lost

namespace Json

mutual

def taken (depth : Nat) : Json → Taken
  | .text s => s.taken
  | .array l =>
    match depth with
    | 0 => .lost
    | d + 1 => takenElements d l
  | .object l =>
    match depth with
    | 0 => .lost
    | d + 1 => takenMembers d l
  | _ => .whole

def takenElements (depth : Nat) : List Json → Taken
  | [] => .whole
  | [v] => taken depth v
  | v :: r => if taken depth v = .whole then takenElements depth r else .lost

def takenMembers (depth : Nat) : List (Pieces × Json) → Taken
  | [] => .whole
  | [(k, v)] => if k.taken = .whole then taken depth v else .lost
  | (k, v) :: r => if k.taken = .whole ∧ taken depth v = .whole then takenMembers depth r else .lost

end

/-- Values nest to this depth at most. -/
def maxDepth : Nat := 127

end Json
end SignIn
