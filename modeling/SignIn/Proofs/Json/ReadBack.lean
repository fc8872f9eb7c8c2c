import SignIn.Proofs.Json.Grammar
import SignIn.Proofs.Json.Number

/-! Printed values are spelled as the grammar says, and so they are read back, if their strings could have been
read. -/

namespace SignIn.Json

theorem hexValue?_hexDigitOctet : ∀ n < 16, hexValue? (hexDigitOctet n) = some n := by decide

theorem Spelling.printUnit {n : Nat} {s : Pieces} {t : Bytes} (hn : n < 65536) (h : Spelling s t) :
    Spelling ((if n < 0x80 then .octet (.ofNat n) else .unit n) :: s) (printUnit n ++ t) := by
  refine .unit ?_ h
  rw [unit?, hexValue?_hexDigitOctet _ (by omega), hexValue?_hexDigitOctet _ (by omega),
    hexValue?_hexDigitOctet _ (by omega), hexValue?_hexDigitOctet _ (by omega)]
  simp only [Option.bind_eq_bind, Option.bind_some, Option.pure_def,
    show (n / 4096 % 16 * 16 + n / 256 % 16) * 256 + n / 16 % 16 * 16 + n % 16 = n by omega]

theorem Spelling.printOctet (b : UInt8) {s : Pieces} {t : Bytes} (h : Spelling s t) :
    Spelling (.octet b :: s) (printOctet b ++ t) := by
  unfold SignIn.Json.printOctet
  split
  next hb => exact .escape (by rcases hb with rfl | rfl <;> rfl) h
  split
  next hb => exact hb ▸ .escape rfl h
  split
  next hb => exact hb ▸ .escape rfl h
  split
  next hb => exact hb ▸ .escape rfl h
  split
  next hb => exact hb ▸ .escape rfl h
  split
  next hb => exact hb ▸ .escape rfl h
  split
  next hc =>
    have hn : b.toNat < 32 := UInt8.lt_iff_toNat_lt.1 hc
    have hu := h.printUnit (show b.toNat < 65536 by omega)
    rwa [if_pos (by omega), UInt8.ofNat_toNat] at hu
  next hq _ _ _ _ _ hc => exact .plain hc (fun e => hq (.inl e)) (fun e => hq (.inr e)) h

/-- Escaped units lie from 0x80 to 0xFFFF. -/
def ProperPieces (s : Pieces) : Prop := ∀ n, Piece.unit n ∈ s → 0x80 ≤ n ∧ n < 0x10000

theorem properPieces_ofText (s : String) : ProperPieces (.ofText s) := by
  intro n h
  simp [Pieces.ofText] at h

mutual

/-- The strings in it are such as are read from a text. -/
def Proper : Json → Prop
  | .text s => ProperPieces s
  | .array l => ProperElements l
  | .object l => ProperMembers l
  | _ => True

def ProperElements : List Json → Prop
  | [] => True
  | v :: r => Proper v ∧ ProperElements r

def ProperMembers : List (Pieces × Json) → Prop
  | [] => True
  | (k, v) :: r => ProperPieces k ∧ Proper v ∧ ProperMembers r

end

theorem spelling_print {s : Pieces} (hs : ProperPieces s) : Spelling s (s.flatMap Piece.print) := by
  induction s with
  | nil => exact .nil
  | cons p s ih =>
    have ih := ih fun n hn => hs n (List.mem_cons_of_mem _ hn)
    rw [List.flatMap_cons]
    cases p with
    | octet b => exact ih.printOctet b
    | unit n =>
      have hn := hs n List.mem_cons_self
      have hu := ih.printUnit hn.2
      rwa [if_neg (by omega)] at hu

/-- A value stands in a text without blanks around it. -/
theorem Spells.document {v : Json} {s : Bytes} (h : Spells v s) : Document v s := by
  have hd := Document.mk .nil h .nil
  rwa [List.nil_append, List.append_nil] at hd

theorem member_print {k : Pieces} {v : Json} (hk : ProperPieces k) (hv : Spells v v.print) :
    Member (k, v) (printString k ++ 0x3A :: print v) := by
  have hm := Member.mk .nil (spelling_print hk) .nil hv.document
  simpa [printString] using hm

mutual

theorem spells_print {v : Json} (hv : v.Proper) : Spells v v.print := by
  match v, hv with
  | .null, _ => exact .null
  | .bool true, _ => exact .yes
  | .bool false, _ => exact .no
  | .int n, _ => exact .numeral (numeral_printInt n)
  | .real negative m e, _ => exact .numeral (numeral_real negative m e)
  | .text s, hs => exact .text (spelling_print hs)
  | .array [], _ => exact .emptyArray .nil
  | .array (v :: l), hl => exact .array (elements_print hl (List.cons_ne_nil v l))
  | .object [], _ => exact .emptyObject .nil
  | .object (m :: l), hl => exact .object (members_print hl (List.cons_ne_nil m l))

theorem elements_print {l : List Json} (hl : ProperElements l) (hne : l ≠ []) : Elements l (printElements l) := by
  match l, hl, hne with
  | [_], ⟨hv, _⟩, _ => exact .one (spells_print hv).document
  | _ :: w :: l, ⟨hv, hl⟩, _ => exact .cons (spells_print hv).document (elements_print hl (List.cons_ne_nil w l))

theorem members_print {l : List (Pieces × Json)} (hl : ProperMembers l) (hne : l ≠ []) :
    Members l (printMembers l) := by
  match l, hl, hne with
  | [_], ⟨hk, hv, _⟩, _ => exact .one (member_print hk (spells_print hv))
  | _ :: m :: l, ⟨hk, hv, hl⟩, _ =>
    have hm := Members.cons (member_print hk (spells_print hv)) (members_print hl (List.cons_ne_nil m l))
    rwa [List.append_assoc, List.cons_append] at hm

end

theorem ofBytes?_print {v : Json} (hv : v.Proper) : ofBytes? v.print = some v :=
  ofBytes?_eq_some_iff.2 (spells_print hv).document

end SignIn.Json
