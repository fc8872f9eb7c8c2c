import SignIn.Proofs.Json.ReadBack

/-! What is printed of texts and numbers is a text. -/

namespace SignIn

namespace Bytes

theorem ofText_ofList (l : List Char) : ofText (.ofList l) = l.flatMap String.utf8EncodeChar := by
  simp [ofText, String.toByteArray_ofList, List.utf8Encode]

/-- They are the octets of a text. -/
def Legible (b : Bytes) : Prop := ∃ l : List Char, b = l.flatMap String.utf8EncodeChar

namespace Legible

theorem nil : Legible [] := ⟨[], rfl⟩

theorem append {a b : Bytes} (ha : Legible a) (hb : Legible b) : Legible (a ++ b) := by
  obtain ⟨l, rfl⟩ := ha
  obtain ⟨m, rfl⟩ := hb
  exact ⟨l ++ m, List.flatMap_append.symm⟩

theorem char (c : Char) : Legible (String.utf8EncodeChar c) := ⟨[c], (List.append_nil _).symm⟩

theorem ofText_getD {b : Bytes} (h : Legible b) : ofText ((text? b).getD "") = b := by
  obtain ⟨l, rfl⟩ := h
  rw [← ofText_ofList, text?_ofText, Option.getD_some]

end Legible

theorem utf8EncodeChar_ofNat : ∀ n < 0x80, String.utf8EncodeChar (.ofNat n) = [.ofNat n] := by decide

/-- Octets below 0x80 are characters by themselves. -/
theorem legible_of_lt {b : Bytes} (h : ∀ x ∈ b, x < 0x80) : Legible b := by
  induction b with
  | nil => exact .nil
  | cons x b ih =>
    obtain ⟨hx, hb⟩ := List.forall_mem_cons.1 h
    have hc := Legible.char (.ofNat x.toNat)
    rw [utf8EncodeChar_ofNat x.toNat (UInt8.lt_iff_toNat_lt.1 hx), UInt8.ofNat_toNat] at hc
    exact hc.append (ih hb)

theorem Legible.octet {x : UInt8} (hx : x < 0x80) : Legible [x] := legible_of_lt (by simpa using hx)

theorem utf8EncodeChar_cases (c : Char) :
    (∃ b < 0x80, String.utf8EncodeChar c = [b]) ∨ ∀ b ∈ String.utf8EncodeChar c, 0x80 ≤ b := by
  fun_cases String.utf8EncodeChar c with
  | case1 v h =>
    refine .inl ⟨_, ?_, rfl⟩
    rw [UInt8.lt_iff_toNat_lt, UInt8.toNat_ofNat']
    exact Nat.lt_of_le_of_lt (Nat.mod_le _ _) (Nat.lt_succ_of_le h)
  | _ =>
    right
    simp only [List.mem_cons, List.not_mem_nil, or_false, forall_eq_or_imp, forall_eq, UInt8.le_iff_toNat_le,
      UInt8.toNat_ofNat', UInt8.reduceToNat]
    omega

end Bytes

namespace Json

open Bytes

theorem printOctet_of_le {b : UInt8} (h : 0x80 ≤ b) : printOctet b = [b] := by
  have hn : 0x80 ≤ b.toNat := UInt8.le_iff_toNat_le.1 h
  have ne {a : UInt8} (ha : a.toNat < 0x80) : b ≠ a := by
    rintro rfl
    omega
  have hlt : ¬b < 0x20 := by
    rw [UInt8.lt_iff_toNat_lt]
    exact Nat.not_lt.2 (Nat.le_trans (by decide) hn)
  rw [printOctet, if_neg (not_or.2 ⟨ne (by decide), ne (by decide)⟩), if_neg (ne (by decide)),
    if_neg (ne (by decide)), if_neg (ne (by decide)), if_neg (ne (by decide)), if_neg (ne (by decide)), if_neg hlt]

theorem all_printOctet_lt : ∀ n < 0x80, (printOctet (.ofNat n)).all (· < 0x80) := by decide

/-- What is escaped is a character by itself, and no octet of any other is. -/
theorem legible_printOctets (c : Char) : Legible ((String.utf8EncodeChar c).flatMap printOctet) := by
  rcases utf8EncodeChar_cases c with ⟨b, hb, h⟩ | h
  · have hall := all_printOctet_lt b.toNat (UInt8.lt_iff_toNat_lt.1 hb)
    rw [UInt8.ofNat_toNat, ← List.flatMap_singleton printOctet, ← h, List.all_eq_true] at hall
    exact legible_of_lt fun x hx => of_decide_eq_true (hall x hx)
  · rw [List.flatMap_def, List.map_congr_left fun b hb => printOctet_of_le (h b hb), ← List.flatMap_def,
      List.flatMap_singleton']
    exact .char c

theorem legible_printString (s : String) : Legible (printString (.ofText s)) := by
  have hs (l : List Char) : Legible ((l.flatMap String.utf8EncodeChar).flatMap printOctet) := by
    induction l with
    | nil => exact .nil
    | cons c l ih =>
      rw [List.flatMap_cons, List.flatMap_append]
      exact (legible_printOctets c).append ih
  have hp : (Pieces.ofText s).flatMap Piece.print = (s.toList.flatMap String.utf8EncodeChar).flatMap printOctet := by
    rw [Pieces.ofText, List.flatMap_map, ← ofText_ofList, String.ofList_toList]
    rfl
  rw [printString, hp]
  exact (Legible.octet (by decide)).append ((hs s.toList).append (.octet (by decide)))

theorem legible_printInt (n : Int) : Legible (printInt n) := by
  have hd (m : Nat) : Legible (printNat m) := by
    refine legible_of_lt fun x hx => ?_
    have hx := isDigit_of_mem_printNat x hx
    simp only [isDigit, Bool.and_eq_true, decide_eq_true_eq] at hx
    exact UInt8.lt_of_le_of_lt hx.2 (by decide)
  rw [printInt]
  split
  next => exact (Legible.octet (by decide)).append (hd _)
  next => exact hd _

theorem legible_print_members {l : List (String × Json)} (h : ∀ m ∈ l, Legible (print m.2)) :
    Legible (print (members l)) := by
  have hl : Legible (printMembers (l.map fun m => (Pieces.ofText m.1, m.2))) := by
    induction l with
    | nil => exact .nil
    | cons m l ih =>
      obtain ⟨hm, h⟩ := List.forall_mem_cons.1 h
      cases l with
      | nil => exact (legible_printString m.1).append ((Legible.octet (by decide)).append hm)
      | cons n l =>
        exact (legible_printString m.1).append ((Legible.octet (by decide)).append
          (hm.append ((Legible.octet (by decide)).append (ih h))))
  exact (Legible.octet (by decide)).append (hl.append (.octet (by decide)))

/-- The text of a record of texts and numbers is read back as it is. -/
theorem ofBytes?_render_members {l : List (String × Json)} (h : ∀ m ∈ l, Legible (print m.2))
    (hp : (members l).Proper) : ofBytes? (ofText (members l).render) = some (members l) := by
  rw [render, (legible_print_members h).ofText_getD, ofBytes?_print hp]

end Json
end SignIn
