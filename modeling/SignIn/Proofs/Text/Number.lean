import Mathlib.Data.List.TakeWhile
import SignIn.Settings.Conversion

/-! Numbers as texts, and words for one and zero: no text is both. -/

namespace SignIn.Text

theorem toLower_eq_self {c : Char} (h : c.isDigit) : c.toLower = c := by
  simp only [Char.isDigit, Bool.and_eq_true, decide_eq_true_eq] at h
  exact dif_neg fun hc => absurd (UInt32.le_trans hc.1 h.2) (by decide)

theorem sign_eq_self {c : Char} {r : List Char} (hm : c ≠ '-') (hp : c ≠ '+') : sign (c :: r) = (false, c :: r) := by
  unfold sign
  split
  next h => exact absurd (List.cons.inj h).1 hm
  next h => exact absurd (List.cons.inj h).1 hp
  next => rfl

theorem digits?_eq_some_iff {l : List Char} {n : Nat} :
    digits? l = some n ↔ l ≠ [] ∧ (∀ c ∈ l, c.isDigit) ∧ ofDigits l = n := by
  simp [digits?, and_assoc]

def bits : List String := ["true", "on", "yes", "false", "off", "no"]

def initials : List Char := ['t', 'o', 'y', 'f', 'n']

/-- A word for one or zero starts with a letter. -/
theorem exists_letter {s : String} (h : (word? s).isSome) :
    s.toLower ∈ bits ∧ ∃ c r, s.toList = c :: r ∧ c.toLower ∈ initials := by
  have hw : s.toLower ∈ bits := by
    rw [word?] at h
    split at h
    next hs => exact List.mem_append_left ["false", "off", "no"] hs
    next =>
      split at h
      next hs => exact List.mem_append_right ["true", "on", "yes"] hs
      next => cases h
  have hall : bits.all fun w => w.toList.head?.any fun c => c ∈ initials := by decide +kernel
  have hhead := List.all_eq_true.1 hall _ hw
  rw [show s.toLower.toList = _ from String.toList_map, List.head?_map] at hhead
  cases hs : s.toList with
  | nil =>
    rw [hs] at hhead
    cases hhead
  | cons c r =>
    rw [hs] at hhead
    exact ⟨hw, c, r, rfl, of_decide_eq_true hhead⟩

theorem ofText?_eq_none {s : String} {b : Bool} {r : List Char} (h : sign s.toList = (b, r))
    (hw : (String.ofList r).toLower ∉ ["inf", "infinity", "nan"]) (hr : ∀ c ∈ r.head?, c.isDigit = false ∧ c ≠ '.') :
    Double.ofText? s = none := by
  simp only [List.mem_cons, not_or, List.not_mem_nil, not_false_eq_true, and_true] at hw
  simp only [Double.ofText?, h]
  rw [if_neg (not_or.2 ⟨hw.1, hw.2.1⟩), if_neg hw.2.2]
  cases r with
  | nil => rfl
  | cons c r =>
    obtain ⟨hd, hp⟩ := hr c rfl
    simp [hd, hp]

/-- A word for one or zero is no number. -/
theorem not_number {s : String} (h : (word? s).isSome) : integer? s.toList = none ∧ Double.ofText? s = none := by
  obtain ⟨hw, c, r, hs, hc⟩ := exists_letter h
  have hne (d : Char) (hd : d.toLower ∉ initials) : c ≠ d := by
    rintro rfl
    exact hd hc
  have hdigit : c.isDigit = false := by
    refine Bool.eq_false_iff.2 fun hd => ?_
    rw [toLower_eq_self hd] at hc
    have hall : initials.all fun c => !c.isDigit := by decide +kernel
    have := List.all_eq_true.1 hall c hc
    rw [hd] at this
    cases this
  have hsign : sign s.toList = (false, c :: r) := hs ▸ sign_eq_self (hne '-' (by decide)) (hne '+' (by decide))
  constructor
  · rw [integer?, hsign]
    simp [digits?, hdigit]
  · refine ofText?_eq_none hsign ?_ fun d hd => ?_
    · rw [← hs, String.ofList_toList]
      have hall : bits.all fun w => w ∉ ["inf", "infinity", "nan"] := by decide +kernel
      exact of_decide_eq_true (List.all_eq_true.1 hall _ hw)
    · obtain rfl := Option.some.inj hd
      exact ⟨hdigit, hne '.' (by decide)⟩

/-- What is a whole number is a number. -/
theorem isSome_ofText? {s : String} {n : Nat} (h : natural? s.toList = some n) : (Double.ofText? s).isSome := by
  obtain ⟨b, r, hsign, hr⟩ : ∃ b r, sign s.toList = (b, r) ∧ digits? r = some n := by
    unfold natural? at h
    split at h
    next r hs => exact ⟨false, r, by rw [hs]; rfl, h⟩
    next =>
      obtain ⟨hne, hd, -⟩ := digits?_eq_some_iff.1 h
      cases hs : s.toList with
      | nil => exact absurd hs hne
      | cons c r =>
        have hc : c.isDigit := hd c (hs ▸ List.mem_cons_self)
        refine ⟨false, c :: r, sign_eq_self ?_ ?_, hs ▸ h⟩ <;>
        · rintro rfl
          exact absurd hc (by decide)
  obtain ⟨hne, hd, -⟩ := digits?_eq_some_iff.1 hr
  have htake : r.takeWhile Char.isDigit = r := List.takeWhile_eq_self_iff.2 hd
  have hdrop : r.dropWhile Char.isDigit = [] := List.dropWhile_eq_nil_iff.2 hd
  simp only [Double.ofText?, hsign, htake, hdrop]
  split
  next => rfl
  next =>
    split
    next => rfl
    next => simp [hne, Double.exponent?]

end SignIn.Text
