import SignIn.Bytes

/-! The SHA-2 family over 32-bit and 64-bit words. -/

namespace SignIn

/-- What distinguishes the members of the family. -/
structure Sha2 (w : Type) where
  wordSize : Nat
  digestSize : Nat
  ofNat : Nat → w
  toNat : w → Nat
  initial : List w
  constants : List w
  bigSigma0 : w → w
  bigSigma1 : w → w
  smallSigma0 : w → w
  smallSigma1 : w → w

namespace Sha2

structure Registers (w : Type) where
  (a b c d e f g h : w)

variable {w : Type} [Add w] [XorOp w] [AndOp w] [Complement w] [Inhabited w]

/-- The big-endian number that the octets write. -/
def number (b : Bytes) : Nat := b.foldl (fun n x => n * 256 + x.toNat) 0

def pad (v : Sha2 w) (m : Bytes) : Bytes :=
  let block := 16 * v.wordSize
  let zeros := (block - (m.length + 1 + 2 * v.wordSize) % block) % block
  m ++ 0x80 :: List.replicate zeros 0 ++ Bytes.bigEndian (2 * v.wordSize) (8 * m.length)

/-- `n` further words of the message schedule. -/
def extend (v : Sha2 w) : Nat → Array w → Array w
  | 0, s => s
  | n + 1, s =>
    let word (back : Nat) : w := s.getD (s.size - back) default
    extend v n (s.push (v.smallSigma1 (word 2) + word 7 + v.smallSigma0 (word 15) + word 16))

def schedule (v : Sha2 w) (block : Bytes) : Array w :=
  v.extend (v.constants.length - 16) ((Bytes.chunks v.wordSize block).map fun b => v.ofNat (number b)).toArray

def round (v : Sha2 w) (r : Registers w) (k : w) : Registers w :=
  let t := r.h + v.bigSigma1 r.e + ((r.e &&& r.f) ^^^ (~~~r.e &&& r.g)) + k
  let u := v.bigSigma0 r.a + ((r.a &&& r.b) ^^^ (r.a &&& r.c) ^^^ (r.b &&& r.c))
  ⟨t + u, r.a, r.b, r.c, r.d + t, r.e, r.f, r.g⟩

def Registers.ofList (l : List w) : Registers w :=
  let word (i : Nat) := l.getD i default
  ⟨word 0, word 1, word 2, word 3, word 4, word 5, word 6, word 7⟩

def Registers.toList (r : Registers w) : List w := [r.a, r.b, r.c, r.d, r.e, r.f, r.g, r.h]

def compress (v : Sha2 w) (s : List w) (block : Bytes) : List w :=
  let ks := List.zipWith (· + ·) v.constants (v.schedule block).toList
  List.zipWith (· + ·) s (ks.foldl v.round (.ofList s)).toList

def hash (v : Sha2 w) (m : Bytes) : Bytes :=
  let s := (Bytes.chunks (16 * v.wordSize) (v.pad m)).foldl v.compress v.initial
  (s.flatMap fun x => Bytes.bigEndian v.wordSize (v.toNat x)).take v.digestSize

end Sha2

private def rotate32 (n : UInt32) (x : UInt32) : UInt32 := x >>> n ||| x <<< (32 - n)

private def rotate64 (n : UInt64) (x : UInt64) : UInt64 := x >>> n ||| x <<< (64 - n)

def sha256 : Sha2 UInt32 where
  wordSize := 4
  digestSize := 32
  ofNat := .ofNat
  toNat := UInt32.toNat
  bigSigma0 x := rotate32 2 x ^^^ rotate32 13 x ^^^ rotate32 22 x
  bigSigma1 x := rotate32 6 x ^^^ rotate32 11 x ^^^ rotate32 25 x
  smallSigma0 x := rotate32 7 x ^^^ rotate32 18 x ^^^ x >>> 3
  smallSigma1 x := rotate32 17 x ^^^ rotate32 19 x ^^^ x >>> 10
  initial :=
  [0x6a09e667, 0xbb67ae85, 0x3c6ef372, 0xa54ff53a, 0x510e527f, 0x9b05688c, 0x1f83d9ab, 0x5be0cd19]
  constants :=
  [0x428a2f98, 0x71374491, 0xb5c0fbcf, 0xe9b5dba5, 0x3956c25b, 0x59f111f1, 0x923f82a4, 0xab1c5ed5,
   0xd807aa98, 0x12835b01, 0x243185be, 0x550c7dc3, 0x72be5d74, 0x80deb1fe, 0x9bdc06a7, 0xc19bf174,
   0xe49b69c1, 0xefbe4786, 0x0fc19dc6, 0x240ca1cc, 0x2de92c6f, 0x4a7484aa, 0x5cb0a9dc, 0x76f988da,
   0x983e5152, 0xa831c66d, 0xb00327c8, 0xbf597fc7, 0xc6e00bf3, 0xd5a79147, 0x06ca6351, 0x14292967,
   0x27b70a85, 0x2e1b2138, 0x4d2c6dfc, 0x53380d13, 0x650a7354, 0x766a0abb, 0x81c2c92e, 0x92722c85,
   0xa2bfe8a1, 0xa81a664b, 0xc24b8b70, 0xc76c51a3, 0xd192e819, 0xd6990624, 0xf40e3585, 0x106aa070,
   0x19a4c116, 0x1e376c08, 0x2748774c, 0x34b0bcb5, 0x391c0cb3, 0x4ed8aa4a, 0x5b9cca4f, 0x682e6ff3,
   0x748f82ee, 0x78a5636f, 0x84c87814, 0x8cc70208, 0x90befffa, 0xa4506ceb, 0xbef9a3f7, 0xc67178f2]

def sha384 : Sha2 UInt64 where
  wordSize := 8
  digestSize := 48
  ofNat := .ofNat
  toNat := UInt64.toNat
  bigSigma0 x := rotate64 28 x ^^^ rotate64 34 x ^^^ rotate64 39 x
  bigSigma1 x := rotate64 14 x ^^^ rotate64 18 x ^^^ rotate64 41 x
  smallSigma0 x := rotate64 1 x ^^^ rotate64 8 x ^^^ x >>> 7
  smallSigma1 x := rotate64 19 x ^^^ rotate64 61 x ^^^ x >>> 6
  initial :=
  [0xcbbb9d5dc1059ed8, 0x629a292a367cd507, 0x9159015a3070dd17, 0x152fecd8f70e5939,
   0x67332667ffc00b31, 0x8eb44a8768581511, 0xdb0c2e0d64f98fa7, 0x47b5481dbefa4fa4]
  constants :=
  [0x428a2f98d728ae22, 0x7137449123ef65cd, 0xb5c0fbcfec4d3b2f, 0xe9b5dba58189dbbc,
   0x3956c25bf348b538, 0x59f111f1b605d019, 0x923f82a4af194f9b, 0xab1c5ed5da6d8118,
   0xd807aa98a3030242, 0x12835b0145706fbe, 0x243185be4ee4b28c, 0x550c7dc3d5ffb4e2,
   0x72be5d74f27b896f, 0x80deb1fe3b1696b1, 0x9bdc06a725c71235, 0xc19bf174cf692694,
   0xe49b69c19ef14ad2, 0xefbe4786384f25e3, 0x0fc19dc68b8cd5b5, 0x240ca1cc77ac9c65,
   0x2de92c6f592b0275, 0x4a7484aa6ea6e483, 0x5cb0a9dcbd41fbd4, 0x76f988da831153b5,
   0x983e5152ee66dfab, 0xa831c66d2db43210, 0xb00327c898fb213f, 0xbf597fc7beef0ee4,
   0xc6e00bf33da88fc2, 0xd5a79147930aa725, 0x06ca6351e003826f, 0x142929670a0e6e70,
   0x27b70a8546d22ffc, 0x2e1b21385c26c926, 0x4d2c6dfc5ac42aed, 0x53380d139d95b3df,
   0x650a73548baf63de, 0x766a0abb3c77b2a8, 0x81c2c92e47edaee6, 0x92722c851482353b,
   0xa2bfe8a14cf10364, 0xa81a664bbc423001, 0xc24b8b70d0f89791, 0xc76c51a30654be30,
   0xd192e819d6ef5218, 0xd69906245565a910, 0xf40e35855771202a, 0x106aa07032bbd1b8,
   0x19a4c116b8d2d0c8, 0x1e376c085141ab53, 0x2748774cdf8eeb99, 0x34b0bcb5e19b48a8,
   0x391c0cb3c5c95a63, 0x4ed8aa4ae3418acb, 0x5b9cca4f7763e373, 0x682e6ff3d6b2b8a3,
   0x748f82ee5defb2fc, 0x78a5636f43172f60, 0x84c87814a1f0ab72, 0x8cc702081a6439ec,
   0x90befffa23631e28, 0xa4506cebde82bde9, 0xbef9a3f7b2c67915, 0xc67178f2e372532b,
   0xca273eceea26619c, 0xd186b8c721c0c207, 0xeada7dd6cde0eb1e, 0xf57d4f7fee6ed178,
   0x06f067aa72176fba, 0x0a637dc5a2c898a6, 0x113f9804bef90dae, 0x1b710b35131c471b,
   0x28db77f523047d84, 0x32caab7b40c72493, 0x3c9ebe0a15c9bebc, 0x431d67c49c100d4c,
   0x4cc5d4becb3e42b6, 0x597f299cfc657e2a, 0x5fcb6fab3ad6faec, 0x6c44198c4a475817]

end SignIn
