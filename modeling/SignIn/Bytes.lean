/-! Octet sequences and their UTF-8 reading. -/

namespace SignIn

abbrev Bytes := List UInt8

namespace Bytes

def ofText (s : String) : Bytes := s.toByteArray.data.toList

def text? (b : Bytes) : Option String := String.fromUTF8? ⟨b.toArray⟩

@[simp] theorem text?_ofText (s : String) : text? (ofText s) = some s := by
  have h : (⟨(ofText s).toArray⟩ : ByteArray) = s.toByteArray := by simp [ofText]
  simp [text?, h, String.fromUTF8?, s.isValidUTF8, String.fromUTF8]

def hexDigit (n : Nat) : Char := if n < 10 then Char.ofNat (48 + n) else Char.ofNat (87 + n)

def hex (b : Bytes) : String :=
  String.ofList (b.flatMap fun x => [hexDigit (x.toNat / 16), hexDigit (x.toNat % 16)])

/-- The low `k` octets of `n`, least significant first. -/
def littleEndian : Nat → Nat → Bytes
  | 0, _ => []
  | k + 1, n => UInt8.ofNat n :: littleEndian k (n / 256)

/-- The low `k` octets of `n`, most significant first. -/
def bigEndian (k n : Nat) : Bytes := (littleEndian k n).reverse

@[simp] theorem length_littleEndian (k n : Nat) : (littleEndian k n).length = k := by
  induction k generalizing n with
  | zero => rfl
  | succ k ih => rw [littleEndian, List.length_cons, ih]

@[simp] theorem length_bigEndian (k n : Nat) : (bigEndian k n).length = k := by
  rw [bigEndian, List.length_reverse, length_littleEndian]

/-- Consecutive pieces of `n` octets; the last may be shorter. -/
def chunks (n : Nat) (b : Bytes) : List Bytes :=
  if n = 0 ∨ b = [] then [] else b.take n :: chunks n (b.drop n)
termination_by b.length
decreasing_by
  rename_i h
  have : b.length ≠ 0 := by simpa using fun e => h (.inr e)
  simp only [List.length_drop]
  omega

end Bytes
end SignIn
