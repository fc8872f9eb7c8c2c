import SignIn.Password
import SignIn.Proofs.Password.Phc

/-! A hash is verified by the password it was made from, and a text that is no hash by none. -/

namespace SignIn

namespace Password

/-- How hashes are made here. -/
def recipe : Argon2.Input := ⟨.hybrid, .mixes, cost, [], size⟩

/-- What is written of a hash that is made here. -/
def written (salt : Salt) (output : Bytes) : Phc where
  algorithm := variantName .hybrid
  version := some Argon2.Version.mixes.code
  params := [(['m'], Nat.toDigits 10 cost.memory), (['t'], Nat.toDigits 10 cost.passes),
    (['p'], Nat.toDigits 10 cost.lanes)]
  salt := saltText salt
  output := output

theorem length_saltText (salt : Salt) : (saltText salt).length = 22 := by
  rw [saltText, Base64.length_encode, Vector.length_toList]

theorem isValue_saltText (salt : Salt) : Phc.isValue (saltText salt) = true := by
  have hd : ∀ n < 64, ((Base64.standard.digit n).isAlphanum || Base64.standard.digit n = '/' ||
      Base64.standard.digit n = '+' || Base64.standard.digit n = '.' || Base64.standard.digit n = '-') = true := by
    decide
  simp only [Phc.isValue, Bool.and_eq_true, decide_eq_true_eq, List.all_eq_true]
  constructor
  · rw [length_saltText]
    decide
  · intro c hc
    obtain ⟨n, hn, rfl⟩ := Base64.exists_digit_of_mem_encode hc
    exact hd n hn

theorem proper_written (salt : Salt) {output : Bytes} (ho : output.length = size) : (written salt output).Proper where
  algorithm := by
    show Phc.isIdent "argon2id".toList = true
    decide
  version := by
    rintro n h
    obtain rfl := Option.some.inj h
    decide
  params := by
    show ∀ p ∈ [(['m'], "19456".toList), (['t'], "2".toList), (['p'], "1".toList)],
      Phc.isIdent p.1 = true ∧ Phc.isValue p.2 = true
    decide
  short := by
    show ∀ f ∈ ["m=19456,t=2,p=1".toList], f.length ≤ 127
    decide
  unversioned h := absurd h (Option.some_ne_none _)
  salt := by
    rw [show (written salt output).salt = saltText salt from rfl, length_saltText]
    exact ⟨isValue_saltText salt, by decide⟩
  output := by
    rw [show (written salt output).output = output from rfl, ho]
    decide

theorem ofText?_print_written (salt : Salt) {output : Bytes} (ho : output.length = size) :
    Phc.ofText? (written salt output).print = some (written salt output) :=
  Phc.ofText?_eq_some_iff.2 ⟨proper_written salt ho, rfl⟩

theorem input?_written (salt : Salt) {output : Bytes} (ho : output.length = size) :
    input? (written salt output) = some recipe := by
  rw [recipe, ← ho]
  rfl

theorem salt?_written (salt : Salt) (output : Bytes) : salt? (written salt output) = some salt.toList := by
  rw [salt?, show (written salt output).salt = Base64.standard.encode salt.toList from rfl,
    Base64.decode?_encode Base64.standard_lawful, Option.filter_some, if_pos]
  rw [Vector.length_toList]
  rfl

/-- A password is verified by a text that is the written form of a hash with what it takes to make it again. -/
theorem verify_iff {password text : String} :
    verify password text = true ↔ ∃ h : Phc, (h.Proper ∧ h.print = text) ∧ ∃ i salt, input? h = some i ∧
      salt? h = some salt ∧ Argon2.hash i (Bytes.ofText password) salt = h.output := by
  simp only [← Phc.ofText?_eq_some_iff]
  unfold verify
  split
  next hn => simp [hn]
  next h hh =>
    rw [hh]
    split
    next i salt hi hs => simp [hi, hs]
    next hne =>
      refine iff_of_false (by simp) ?_
      rintro ⟨h', e, i, salt, hi, hs, -⟩
      cases e
      exact hne i salt hi hs

theorem verify_written (salt : Salt) {output : Bytes} (ho : output.length = size) (password : String) :
    verify password (written salt output).print = true ↔
      Argon2.hash recipe (Bytes.ofText password) salt.toList = output := by
  rw [verify, ofText?_print_written salt ho]
  dsimp only
  rw [input?_written salt ho, salt?_written]
  exact decide_eq_true_iff

theorem hash_eq (salt : Salt) (password : String) :
    hash salt password = (written salt (Argon2.hash recipe (Bytes.ofText password) salt.toList)).print := rfl

theorem verify_hash (salt : Salt) (password : String) : verify password (hash salt password) = true := by
  rw [hash_eq, verify_written salt (Argon2.length_hash _ _ _)]

/-- A hash that is stored can be read for all that it was made from, and verifies the passwords that lead to the same
output, the one it was made from among them. A text that is not the written form of a hash, with a salt and an output,
verifies none. -/
theorem verifies_own_password (salt : Salt) (password : String) :
    (∃ h, Phc.ofText? (hash salt password) = some h ∧ h.algorithm = "argon2id".toList ∧ h.version = some 0x13 ∧
      h.params = [(['m'], "19456".toList), (['t'], "2".toList), (['p'], "1".toList)] ∧
      input? h = some ⟨.hybrid, .mixes, ⟨19456, 2, 1⟩, [], 32⟩ ∧ salt? h = some salt.toList ∧
      h.output = Argon2.hash ⟨.hybrid, .mixes, ⟨19456, 2, 1⟩, [], 32⟩ (Bytes.ofText password) salt.toList) ∧
    verify password (hash salt password) = true ∧
    (∀ candidate, verify candidate (hash salt password) = true ↔
      Argon2.hash ⟨.hybrid, .mixes, ⟨19456, 2, 1⟩, [], 32⟩ (Bytes.ofText candidate) salt.toList =
        Argon2.hash ⟨.hybrid, .mixes, ⟨19456, 2, 1⟩, [], 32⟩ (Bytes.ofText password) salt.toList) ∧
    ∀ text, (∀ h : Phc, h.Proper → h.print ≠ text) → ∀ candidate, verify candidate text = false := by
  have ho : (Argon2.hash recipe (Bytes.ofText password) salt.toList).length = size := Argon2.length_hash _ _ _
  refine ⟨⟨_, ofText?_print_written salt ho, rfl, rfl, rfl, input?_written salt ho, salt?_written salt _, rfl⟩,
    verify_hash salt password, verify_written salt ho, ?_⟩
  intro text ht candidate
  refine Bool.eq_false_iff.2 fun hv => ?_
  obtain ⟨h, ⟨hh, he⟩, -⟩ := verify_iff.1 hv
  exact ht h hh he

/-- A salt without an output is no hash. -/
theorem verifies_own_password_salt :
    (∀ h : Phc, h.Proper → h.print ≠ "$argon2id$v=19$m=19456,t=2,p=1$c2FsdHNhbHRzYWx0c2FsdA") ∧
      ∀ candidate, verify candidate "$argon2id$v=19$m=19456,t=2,p=1$c2FsdHNhbHRzYWx0c2FsdA" = false := by
  have hn : (Phc.ofText? "$argon2id$v=19$m=19456,t=2,p=1$c2FsdHNhbHRzYWx0c2FsdA").isNone := by decide +kernel
  have ht : ∀ h : Phc, h.Proper → h.print ≠ "$argon2id$v=19$m=19456,t=2,p=1$c2FsdHNhbHRzYWx0c2FsdA" := by
    intro h hh e
    rw [Phc.ofText?_eq_some_iff.2 ⟨hh, e⟩] at hn
    contradiction
  obtain ⟨-, -, -, hnone⟩ := verifies_own_password (Vector.replicate 16 0) "correct horse"
  exact ⟨ht, hnone _ ht⟩

end Password
end SignIn
