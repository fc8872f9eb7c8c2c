import SignIn.Passcode.Store
import SignIn.Proofs.Clock
import SignIn.Proofs.Table
import SignIn.Proofs.Text.Blank

/-! The codes that are out, at once and later on, after each change to their store. -/

namespace SignIn

theorem Text.le_length_padded (width n : Nat) : width ≤ (padded width n).length := by
  unfold padded
  simp only [String.length_append, String.length_ofList, List.length_replicate]
  omega

theorem Passcode.codeText_ne_empty (n : Draw) : codeText n ≠ "" := by
  intro h
  have hl := Text.le_length_padded 6 n.val
  rw [show Text.padded 6 n.val = codeText n from rfl, h] at hl
  contradiction

theorem Text.trim_codeText (n : Passcode.Draw) : trim (Passcode.codeText n) = Passcode.codeText n := by
  have digit {c : Char} (h : c.isDigit) : isBlank c = false := by
    simp only [Char.isDigit, Bool.and_eq_true, decide_eq_true_eq, UInt32.le_iff_toNat_le] at h
    obtain ⟨hl, hu⟩ := h
    have hl : 48 ≤ c.toNat := hl
    have hu : c.toNat ≤ 57 := hu
    simp only [isBlank, Bool.or_eq_false_iff, Bool.and_eq_false_iff, decide_eq_false_iff_not]
    omega
  refine trim_eq_self fun c hc => digit ?_
  simp only [Passcode.codeText, padded, String.toList_append, String.toList_ofList, List.mem_append] at hc
  rcases hc with hc | hc
  · rw [List.eq_of_mem_replicate hc]
    rfl
  · rw [show (toString n.val).toList = _ from Nat.toList_repr] at hc
    exact Nat.isDigit_of_mem_toDigits (by decide) (by decide) hc

namespace PasscodeStore

variable {s : PasscodeStore} {now t : Int} {c : Channel} {a : String}

theorem live?_eq_some_iff {p : Passcode} :
    s.live? now c a = some p ↔ ∃ e, s.get? (c, a) = some e ∧ now < e.expiresAt ∧ e.value = p := by
  simp [live?, Option.bind_eq_some_iff, Expiring.live?_eq_some_iff]

theorem get_eq_ok_iff {p : Passcode} : s.get now c a = .ok p ↔ s.live? now c a = some p := by
  rw [get]
  cases s.live? now c a <;> simp

/-- What is saved stands in the place of what was there. -/
theorem save_cases (s : PasscodeStore) (now : Int) (p : Passcode) (ttl : Int) :
    (s.save now p ttl).2 = s ∨ ∃ e, s.save now p ttl = (some (.ok ()), s.insert (p.channel, p.address) e) := by
  rw [save]
  split
  next => exact .inl rfl
  next =>
    split
    next => exact .inl rfl
    next e _ => exact .inr ⟨e, rfl⟩

theorem live?_insert (s : PasscodeStore) (k : Channel × String) (e : Expiring Passcode) (t : Int) (c : Channel)
    (a : String) : live? (s.insert k e) t c a = if (c, a) = k then e.live? t else s.live? t c a := by
  rw [live?, Table.get?_insert]
  split
  next => rfl
  next => rfl

theorem live?_delete (s : PasscodeStore) (c' : Channel) (a' : String) (t : Int) (c : Channel) (a : String) :
    (s.delete c' a').live? t c a = if (c, a) = (c', a') then none else s.live? t c a := by
  rw [live?, delete, Table.get?_erase]
  split
  next => rfl
  next => rfl

theorem live?_purge (hs : s.keys.Nodup) (ht : now ≤ t) (c : Channel) (a : String) :
    (s.purge now).2.live? t c a = s.live? t c a := by
  apply Option.ext
  intro p
  have hg (e : Expiring Passcode) :
      (s.purge now).2.get? (c, a) = some e ↔ s.get? (c, a) = some e ∧ now < e.expiresAt := by
    rw [show (s.purge now).2.get? (c, a) = _ from Table.get?_filter hs _ _, Option.filter_eq_some_iff]
    simp [Expiring.isExpired]
  simp only [live?_eq_some_iff, hg]
  constructor
  · rintro ⟨e, ⟨he, -⟩, h⟩
    exact ⟨e, he, h⟩
  · rintro ⟨e, he, hlt, hp⟩
    exact ⟨e, ⟨he, by omega⟩, hlt, hp⟩

end PasscodeStore
end SignIn
