import SignIn.Bytes

/-! BLAKE2b without a key, over a four by four matrix of words held as rows. -/

namespace SignIn

/-- The little-endian word that the octets write. -/
def littleWord (b : Bytes) : UInt64 := b.foldr (fun x n => n <<< 8 ||| x.toUInt64) 0

/-- Four words, which make half a chaining value or a row of the matrix. -/
structure Quad where
  (p q r s : UInt64)
  deriving Inhabited, DecidableEq

namespace Quad

@[inline] def zipWith (f : UInt64 → UInt64 → UInt64) (x y : Quad) : Quad :=
  ⟨f x.p y.p, f x.q y.q, f x.r y.r, f x.s y.s⟩

@[inline] def xor (x y : Quad) : Quad := x.zipWith (· ^^^ ·) y

@[inline] def turn (x : Quad) : Quad := ⟨x.q, x.r, x.s, x.p⟩

def ofBytes (b : Bytes) : Quad :=
  ⟨littleWord (b.take 8), littleWord ((b.drop 8).take 8), littleWord ((b.drop 16).take 8),
    littleWord ((b.drop 24).take 8)⟩

def toBytes (x : Quad) : Bytes := [x.p, x.q, x.r, x.s].flatMap fun w => Bytes.littleEndian 8 w.toNat

@[simp] theorem length_toBytes (x : Quad) : x.toBytes.length = 32 := by simp [toBytes]

end Quad

namespace Blake2b

@[inline] def rotate (n x : UInt64) : UInt64 := x >>> n ||| x <<< (64 - n)

/-- Mixes a column of the matrix, with two words of the message. -/
@[inline] def mix (plus : UInt64 → UInt64 → UInt64) (a b c d x y : UInt64) : Quad :=
  let a := plus a b + x
  let d := rotate 32 (d ^^^ a)
  let c := plus c d
  let b := rotate 24 (b ^^^ c)
  let a := plus a b + y
  let d := rotate 16 (d ^^^ a)
  let c := plus c d
  let b := rotate 63 (b ^^^ c)
  ⟨a, b, c, d⟩

structure Rows where
  (a b c d : Quad)

@[inline] def columns (plus : UInt64 → UInt64 → UInt64) (v : Rows) (x y : Quad) : Rows :=
  let i := mix plus v.a.p v.b.p v.c.p v.d.p x.p y.p
  let j := mix plus v.a.q v.b.q v.c.q v.d.q x.q y.q
  let k := mix plus v.a.r v.b.r v.c.r v.d.r x.r y.r
  let l := mix plus v.a.s v.b.s v.c.s v.d.s x.s y.s
  ⟨⟨i.p, j.p, k.p, l.p⟩, ⟨i.q, j.q, k.q, l.q⟩, ⟨i.r, j.r, k.r, l.r⟩, ⟨i.s, j.s, k.s, l.s⟩⟩

@[inline] def diagonals (plus : UInt64 → UInt64 → UInt64) (v : Rows) (x y : Quad) : Rows :=
  let v := columns plus ⟨v.a, v.b.turn, v.c.turn.turn, v.d.turn.turn.turn⟩ x y
  ⟨v.a, v.b.turn.turn.turn, v.c.turn.turn, v.d.turn⟩

structure Chain where
  (low high : Quad)

def iv : Chain :=
  ⟨⟨0x6a09e667f3bcc908, 0xbb67ae8584caa73b, 0x3c6ef372fe94f82b, 0xa54ff53a5f1d36f1⟩,
   ⟨0x510e527fade682d1, 0x9b05688c2b3e6c1f, 0x1f83d9abfb41bd6b, 0x5be0cd19137e2179⟩⟩

/-- Which words of the message each of the twelve rounds takes, in order. -/
def schedule : List (List Nat) :=
  let s := [
    [0, 1, 2, 3, 4, 5, 6, 7, 8, 9, 10, 11, 12, 13, 14, 15],
    [14, 10, 4, 8, 9, 15, 13, 6, 1, 12, 0, 2, 11, 7, 5, 3],
    [11, 8, 12, 0, 5, 2, 15, 13, 10, 14, 3, 6, 7, 1, 9, 4],
    [7, 9, 3, 1, 13, 12, 11, 14, 2, 6, 5, 10, 4, 0, 15, 8],
    [9, 0, 5, 7, 2, 4, 10, 15, 14, 1, 11, 12, 6, 8, 3, 13],
    [2, 12, 6, 10, 0, 11, 8, 3, 4, 13, 7, 5, 15, 14, 1, 9],
    [12, 5, 1, 15, 14, 13, 4, 10, 0, 7, 6, 3, 9, 2, 8, 11],
    [13, 11, 7, 14, 12, 1, 3, 9, 5, 0, 15, 4, 8, 6, 2, 10],
    [6, 15, 14, 9, 11, 3, 0, 8, 12, 2, 13, 7, 1, 4, 10, 5],
    [10, 2, 8, 4, 7, 6, 1, 5, 15, 11, 9, 14, 3, 12, 13, 0]]
  s ++ s.take 2

def round (m : Array UInt64) (v : Rows) (s : List Nat) : Rows :=
  let w := s.map fun i => m.getD i 0
  let quad (i : Nat) : Quad := ⟨w.getD i 0, w.getD (i + 2) 0, w.getD (i + 4) 0, w.getD (i + 6) 0⟩
  diagonals (· + ·) (columns (· + ·) v (quad 0) (quad 1)) (quad 8) (quad 9)

/-- Takes in a block of 128 octets, `count` octets of the message being read with it. -/
def compress (h : Chain) (block : Bytes) (count : Nat) (last : Bool) : Chain :=
  let m := ((Bytes.chunks 8 block).map littleWord).toArray
  let flag : Quad := ⟨.ofNat count, .ofNat (count / UInt64.size), if last then ~~~0 else 0, 0⟩
  let v := schedule.foldl (round m) ⟨h.low, h.high, iv.low, iv.high.xor flag⟩
  ⟨h.low.xor (v.a.xor v.c), h.high.xor (v.b.xor v.d)⟩

/-- Takes in the blocks of a message; the last may be short, and counts as filled with zeros. -/
def absorb (h : Chain) (read : Nat) : List Bytes → Chain
  | [] => compress h (List.replicate 128 0) read true
  | [b] => compress h (b ++ List.replicate (128 - b.length) 0) (read + b.length) true
  | b :: r => absorb (compress h b (read + 128) false) (read + 128) r

end Blake2b

/-- The digest of `size` octets, at most 64. -/
def blake2b (size : Nat) (m : Bytes) : Bytes :=
  let start : Blake2b.Chain :=
    { Blake2b.iv with low := Blake2b.iv.low.xor ⟨0x01010000 ^^^ .ofNat size, 0, 0, 0⟩ }
  let h := Blake2b.absorb start 0 (Bytes.chunks 128 m)
  (h.low.toBytes ++ h.high.toBytes).take size

theorem length_blake2b {size : Nat} (h : size ≤ 64) (m : Bytes) : (blake2b size m).length = size := by
  simp [blake2b]; omega

end SignIn
