import SignIn.Hash.Blake2b

/-! Argon2: a digest that fills a matrix of blocks, lane by lane, each block from the one before it and one
further back. -/

namespace SignIn.Argon2

/-- How the further block is chosen: from the contents, from the position, or from the position for half a pass. -/
inductive Variant where
  | dependent | independent | hybrid
  deriving DecidableEq

def Variant.code : Variant → Nat
  | .dependent => 0
  | .independent => 1
  | .hybrid => 2

/-- In the older version a later pass overwrites the blocks of an earlier one; in the newer it mixes them in. -/
inductive Version where
  | overwrites | mixes
  deriving DecidableEq

def Version.code : Version → Nat
  | .overwrites => 0x10
  | .mixes => 0x13

structure Cost where
  /-- in blocks of 1024 octets -/
  memory : Nat
  passes : Nat
  lanes : Nat
  deriving DecidableEq

structure Input where
  variant : Variant
  version : Version
  cost : Cost
  associated : Bytes
  size : Nat

/-- 1024 octets, as 32 quads: an eight by eight matrix of pairs of words. -/
abbrev Block := Array Quad

@[inline] def lowProduct (x y : UInt64) : UInt64 :=
  x + y + 2 * (x &&& 0xffffffff) * (y &&& 0xffffffff)

def permute (v : Blake2b.Rows) : Blake2b.Rows :=
  let z : Quad := ⟨0, 0, 0, 0⟩
  Blake2b.diagonals lowProduct (Blake2b.columns lowProduct v z z) z z

def Block.row (b : Block) (i : Nat) : Block :=
  let v := permute ⟨b.getD i default, b.getD (i + 1) default, b.getD (i + 2) default, b.getD (i + 3) default⟩
  (((b.setIfInBounds i v.a).setIfInBounds (i + 1) v.b).setIfInBounds (i + 2) v.c).setIfInBounds (i + 3) v.d

/-- Two neighbouring columns of pairs, which share their quads. -/
def Block.column (b : Block) (i : Nat) : Block :=
  let q (j : Nat) : Quad := b.getD (i + 4 * j) default
  let left (x y : Quad) : Quad := ⟨x.p, x.q, y.p, y.q⟩
  let right (x y : Quad) : Quad := ⟨x.r, x.s, y.r, y.s⟩
  let v := permute ⟨left (q 0) (q 1), left (q 2) (q 3), left (q 4) (q 5), left (q 6) (q 7)⟩
  let w := permute ⟨right (q 0) (q 1), right (q 2) (q 3), right (q 4) (q 5), right (q 6) (q 7)⟩
  let upper (x y : Quad) : Quad := ⟨x.p, x.q, y.p, y.q⟩
  let lower (x y : Quad) : Quad := ⟨x.r, x.s, y.r, y.s⟩
  let b := (b.setIfInBounds i (upper v.a w.a)).setIfInBounds (i + 4) (lower v.a w.a)
  let b := (b.setIfInBounds (i + 8) (upper v.b w.b)).setIfInBounds (i + 12) (lower v.b w.b)
  let b := (b.setIfInBounds (i + 16) (upper v.c w.c)).setIfInBounds (i + 20) (lower v.c w.c)
  (b.setIfInBounds (i + 24) (upper v.d w.d)).setIfInBounds (i + 28) (lower v.d w.d)

def Block.xor (x y : Block) : Block := Array.zipWith Quad.xor x y

def Block.compress (x y : Block) : Block :=
  let r := x.xor y
  r.xor ([0, 1, 2, 3].foldl Block.column ([0, 4, 8, 12, 16, 20, 24, 28].foldl Block.row r))

def Block.zero : Block := Array.replicate 32 ⟨0, 0, 0, 0⟩

def Block.ofBytes (b : Bytes) : Block := ((Bytes.chunks 32 b).map Quad.ofBytes).toArray

def Block.toBytes (b : Block) : Bytes := b.toList.flatMap Quad.toBytes

def Block.words (b : Block) : List UInt64 := b.toList.flatMap fun x => [x.p, x.q, x.r, x.s]

/-- Halves of a chain of 64-octet digests, `n` of them before the last. -/
def longTail : Nat → Nat → Bytes → Bytes
  | 0, size, v => blake2b size v
  | n + 1, size, v => (blake2b 64 v).take 32 ++ longTail n size (blake2b 64 v)

/-- A digest of any size, made of 32-octet halves of a chain of digests. -/
def longHash (size : Nat) (m : Bytes) : Bytes :=
  let m := Bytes.littleEndian 4 size ++ m
  if size ≤ 64 then blake2b size m
  else
    let n := (size + 31) / 32 - 2
    longTail n (size - 32 * n) m

def sized (b : Bytes) : Bytes := Bytes.littleEndian 4 b.length ++ b

def seed (i : Input) (password salt : Bytes) : Bytes :=
  let n (k : Nat) := Bytes.littleEndian 4 k
  blake2b 64 (n i.cost.lanes ++ n i.size ++ n i.cost.memory ++ n i.cost.passes ++ n i.version.code ++
    n i.variant.code ++ sized password ++ sized salt ++ sized [] ++ sized i.associated)

/-- The matrix, lane after lane. -/
abbrev Matrix := Array Block

/-- The number of blocks in a quarter of a lane. -/
def Input.segment (i : Input) : Nat := i.cost.memory / (4 * i.cost.lanes)

def Input.laneSize (i : Input) : Nat := 4 * i.segment

/-- Which segment of which lane is being filled, and in which pass. -/
structure Place where
  pass : Nat
  slice : Nat
  lane : Nat

def Input.byPosition (i : Input) (place : Place) : Bool :=
  match i.variant with
  | .dependent => false
  | .independent => true
  | .hybrid => place.pass = 0 ∧ place.slice < 2

/-- The pseudo-random words of a segment that is filled by position. -/
def Input.addresses (i : Input) (place : Place) : Array UInt64 :=
  let head : List Quad :=
    [⟨.ofNat place.pass, .ofNat place.lane, .ofNat place.slice, .ofNat (i.laneSize * i.cost.lanes)⟩]
  let block (k : Nat) : Block :=
    let rest : List Quad :=
      ⟨.ofNat i.cost.passes, .ofNat i.variant.code, .ofNat (k + 1), 0⟩ :: List.replicate 30 ⟨0, 0, 0, 0⟩
    (head ++ rest).toArray
  ((List.range ((i.segment + 127) / 128)).flatMap fun k =>
    (Block.zero.compress (Block.zero.compress (block k))).words).toArray

/-- The cell that the word `j` refers to from place `index` of the segment. -/
def Input.reference (i : Input) (place : Place) (index : Nat) (j : UInt64) : Nat :=
  let first := place.pass = 0 ∧ place.slice = 0
  let lane := if first then place.lane else (j >>> 32).toNat % i.cost.lanes
  let done := if place.pass = 0 then place.slice * i.segment else i.laneSize - i.segment
  let area :=
    if lane = place.lane then done + index - 1
    else if index = 0 then done - 1 else done
  let x := (j &&& 0xffffffff).toNat
  let back := area * (x * x / UInt32.size) / UInt32.size
  let start := if place.pass = 0 ∨ place.slice = 3 then 0 else (place.slice + 1) * i.segment
  lane * i.laneSize + (start + area - 1 - back) % i.laneSize

def Input.fillCell (i : Input) (place : Place) (words : Array UInt64) (m : Matrix) (index : Nat) : Matrix :=
  let base := place.lane * i.laneSize
  let column := place.slice * i.segment + index
  let previous := m.getD (base + if column = 0 then i.laneSize - 1 else column - 1) #[]
  let j := if i.byPosition place then words.getD index 0 else (previous.getD 0 default).p
  let b := previous.compress (m.getD (i.reference place index j) #[])
  if place.pass ≠ 0 ∧ i.version = .mixes then
    let b := b.xor (m.getD (base + column) #[])
    m.setIfInBounds (base + column) b
  else m.setIfInBounds (base + column) b

def Input.fillSegment (i : Input) (m : Matrix) (place : Place) : Matrix :=
  let words := if i.byPosition place then i.addresses place else #[]
  let skip := if place.pass = 0 ∧ place.slice = 0 then 2 else 0
  (List.range' skip (i.segment - skip)).foldl (i.fillCell place words) m

def Input.places (i : Input) : List Place :=
  (List.range i.cost.passes).flatMap fun pass =>
    (List.range 4).flatMap fun slice => (List.range i.cost.lanes).map fun lane => ⟨pass, slice, lane⟩

/-- The matrix with the first two blocks of each lane. -/
def Input.start (i : Input) (h : Bytes) : Matrix :=
  let n (k : Nat) := Bytes.littleEndian 4 k
  (List.range i.cost.lanes).foldl
    (fun m lane =>
      let block (k : Nat) := Block.ofBytes (longHash 1024 (h ++ n k ++ n lane))
      (m.setIfInBounds (lane * i.laneSize) (block 0)).setIfInBounds (lane * i.laneSize + 1) (block 1))
    (Array.replicate (i.cost.lanes * i.laneSize) Block.zero)

/-- The exclusive or of the last blocks of the lanes. -/
def Input.lastColumn (i : Input) (m : Matrix) : Block :=
  (List.range i.cost.lanes).foldl (fun b lane => b.xor (m.getD ((lane + 1) * i.laneSize - 1) #[])) Block.zero

def hash (i : Input) (password salt : Bytes) : Bytes :=
  longHash i.size (i.lastColumn (i.places.foldl i.fillSegment (i.start (seed i password salt)))).toBytes

theorem length_longTail (n : Nat) {size : Nat} (h : size ≤ 64) (v : Bytes) :
    (longTail n size v).length = 32 * n + size := by
  induction n generalizing v with
  | zero => simp [longTail, length_blake2b h]
  | succ n ih => simp [longTail, ih, length_blake2b]; omega

theorem length_longHash (size : Nat) (m : Bytes) : (longHash size m).length = size := by
  unfold longHash
  split
  · exact length_blake2b ‹_› _
  · simp only [length_longTail _ (by omega : size - 32 * ((size + 31) / 32 - 2) ≤ 64)]
    omega

@[simp] theorem length_hash (i : Input) (password salt : Bytes) : (hash i password salt).length = i.size :=
  length_longHash _ _

end SignIn.Argon2
