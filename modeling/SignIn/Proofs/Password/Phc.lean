import SignIn.Password.Phc
import SignIn.Proofs.Base64
import SignIn.Proofs.Text.Decimal

/-! The written form of a password hash: what is read is what was written, and nothing else is read. -/

namespace SignIn.Phc

theorem not_mem_of_isIdent {s : List Char} {c : Char} (h : isIdent s)
    (hc : (c.isLower || c.isDigit || c = '-') = false) : c ∉ s := by
  intro hs
  simp only [isIdent, Bool.and_eq_true, List.all_eq_true] at h
  exact Bool.false_ne_true (hc.symm.trans (h.2 c hs))

theorem not_mem_of_isValue {s : List Char} {c : Char} (h : isValue s)
    (hc : (c.isAlphanum || c = '/' || c = '+' || c = '.' || c = '-') = false) : c ∉ s := by
  intro hs
  simp only [isValue, Bool.and_eq_true, List.all_eq_true] at h
  exact Bool.false_ne_true (hc.symm.trans (h.2 c hs))

theorem number?_eq_some_iff {s : List Char} {n : Nat} :
    number? s = some n ↔ s = Nat.toDigits 10 n ∧ n < UInt32.size := by
  rw [number?, Option.filter_eq_some_iff, Text.decimal?_eq_some_iff, decide_eq_true_eq]

/-! The fields that a hash is written in. -/

def versionFields : Option Nat → List (List Char)
  | none => []
  | some n => ['v' :: '=' :: Nat.toDigits 10 n]

def paramText (p : List Char × List Char) : List Char := p.1 ++ '=' :: p.2

def paramFields : List (List Char × List Char) → List (List Char)
  | [] => []
  | ps => [[','].intercalate (ps.map paramText)]

def fields (h : Phc) : List (List Char) :=
  [] :: h.algorithm :: (versionFields h.version ++ (paramFields h.params ++
    [h.salt, Base64.standard.encode h.output]))

theorem intercalate_cons (c : Char) (f : List Char) (l : List (List Char)) :
    [c].intercalate (f :: l) = f ++ l.flatMap (c :: ·) := by
  induction l generalizing f with
  | nil => simp
  | cons g l ih => rw [List.intercalate_cons_cons, ih]; simp

theorem printVersion_eq (v : Option Nat) : printVersion v = (versionFields v).flatMap ('$' :: ·) := by
  cases v <;> simp [printVersion, versionFields]

theorem printParams_eq (ps : List (List Char × List Char)) :
    printParams ps = (paramFields ps).flatMap ('$' :: ·) := by
  cases ps with
  | nil => rfl
  | cons p ps => exact (List.append_nil _).symm

theorem print_eq (h : Phc) : h.print = .ofList (['$'].intercalate h.fields) := by
  simp [print, fields, intercalate_cons, printVersion_eq, printParams_eq]

/-! Parameters. -/

def IsParam (p : List Char × List Char) : Prop := isIdent p.1 ∧ isValue p.2

theorem readParam_eq_some_iff {f : List Char} {p : List Char × List Char} :
    readParam f = some p ↔ IsParam p ∧ f = paramText p := by
  obtain ⟨name, value⟩ := p
  constructor
  · intro h
    unfold readParam at h
    split at h
    next n v hs =>
      split at h
      next hp =>
        cases h
        refine ⟨hp, ?_⟩
        rw [Text.split_eq_splitOn] at hs
        rw [← @List.intercalate_splitOn _ f _ _ '=', hs]
        simp [paramText, List.intercalate_cons_cons]
      next => contradiction
    next => contradiction
  · rintro ⟨hp, rfl⟩
    have hn : '=' ∉ name := not_mem_of_isIdent hp.1 (by decide)
    have hv : '=' ∉ value := not_mem_of_isValue hp.2 (by decide)
    unfold readParam
    rw [show paramText (name, value) = name ++ '=' :: value from rfl, Text.split_append _ hn,
      Text.split_of_not_mem hv]
    exact if_pos hp

theorem mapM_readParam_eq_some_iff {l : List (List Char)} {ps : List (List Char × List Char)} :
    l.mapM readParam = some ps ↔ (∀ p ∈ ps, IsParam p) ∧ l = ps.map paramText := by
  induction l generalizing ps with
  | nil => cases ps <;> simp
  | cons f l ih =>
    simp only [List.mapM_cons, Option.bind_eq_bind, Option.bind_eq_some_iff, Option.pure_def, Option.some.injEq,
      readParam_eq_some_iff, ih]
    constructor
    · rintro ⟨p, ⟨hp, rfl⟩, ps', ⟨hps, rfl⟩, rfl⟩
      exact ⟨List.forall_mem_cons.2 ⟨hp, hps⟩, rfl⟩
    · rintro ⟨hps, h⟩
      cases ps with
      | nil => contradiction
      | cons p ps =>
        obtain ⟨rfl, rfl⟩ := List.cons.inj h
        obtain ⟨hp, hps⟩ := List.forall_mem_cons.1 hps
        exact ⟨p, ⟨hp, rfl⟩, ps, ⟨hps, rfl⟩, rfl⟩

theorem paramFields_cons (p : List Char × List Char) (ps : List (List Char × List Char)) :
    paramFields (p :: ps) = [[','].intercalate ((p :: ps).map paramText)] := rfl

theorem comma_not_mem_paramText {p : List Char × List Char} (hp : IsParam p) : ',' ∉ paramText p := by
  simp only [paramText, List.mem_append, List.mem_cons, not_or]
  exact ⟨not_mem_of_isIdent hp.1 (by decide), by decide, not_mem_of_isValue hp.2 (by decide)⟩

theorem dollar_not_mem_paramText {p : List Char × List Char} (hp : IsParam p) : '$' ∉ paramText p := by
  simp only [paramText, List.mem_append, List.mem_cons, not_or]
  exact ⟨not_mem_of_isIdent hp.1 (by decide), by decide, not_mem_of_isValue hp.2 (by decide)⟩

theorem split_paramTexts {p : List Char × List Char} {ps : List (List Char × List Char)}
    (hps : ∀ q ∈ p :: ps, IsParam q) :
    Text.split ',' ([','].intercalate ((p :: ps).map paramText)) = (p :: ps).map paramText := by
  rw [Text.split_eq_splitOn]
  refine List.splitOn_intercalate ',' ?_ (by simp)
  intro f hf
  obtain ⟨q, hq, rfl⟩ := List.mem_map.1 hf
  exact comma_not_mem_paramText (hps q hq)

/-- The parameters end where a field has no equals sign. -/
theorem readParams_append {ps : List (List Char × List Char)} (hps : ∀ p ∈ ps, IsParam p)
    (hl : ∀ f ∈ paramFields ps, f.length ≤ 127) {f : List Char} (hf : '=' ∉ f) (r : List (List Char)) :
    readParams (paramFields ps ++ f :: r) = some (ps, f :: r) := by
  cases ps with
  | nil => exact if_pos hf
  | cons p ps =>
    have he : '=' ∈ [','].intercalate ((p :: ps).map paramText) := by
      rw [List.map_cons, intercalate_cons, paramText]
      simp
    rw [paramFields_cons, List.singleton_append, readParams, if_neg (not_not_intro he),
      if_pos (hl _ (by rw [paramFields_cons]; exact List.mem_singleton_self _)), split_paramTexts hps,
      mapM_readParam_eq_some_iff.2 ⟨hps, rfl⟩, Option.map_some]

theorem eq_append_of_readParams {r r' : List (List Char)} {ps : List (List Char × List Char)}
    (h : readParams r = some (ps, r')) :
    r = paramFields ps ++ r' ∧ (∀ p ∈ ps, IsParam p) ∧ ∀ f ∈ paramFields ps, f.length ≤ 127 := by
  unfold readParams at h
  split at h
  next f r =>
    split at h
    next =>
      cases h
      exact ⟨rfl, by simp, by simp [paramFields]⟩
    next =>
      split at h
      next hl =>
        obtain ⟨ps', hm, he⟩ := Option.map_eq_some_iff.1 h
        cases he
        obtain ⟨hps, hs⟩ := mapM_readParam_eq_some_iff.1 hm
        cases ps with
        | nil => exact absurd hs (Text.split_ne_nil _ _)
        | cons p ps =>
          rw [Text.split_eq_splitOn] at hs
          have hf : f = [','].intercalate ((p :: ps).map paramText) := by
            rw [← hs, List.intercalate_splitOn]
          rw [paramFields_cons, ← hf]
          exact ⟨rfl, hps, by simpa using hl⟩
      next => contradiction
  next =>
    cases h
    exact ⟨rfl, by simp, by simp [paramFields]⟩

/-! Versions. -/

/-- No version stands in front. -/
def Unversioned (r : List (List Char)) : Prop := ∀ x r', r = ('v' :: '=' :: x) :: r' → ',' ∈ x

theorem readVersion_of_unversioned {r : List (List Char)} (h : Unversioned r) : readVersion r = some (none, r) := by
  unfold readVersion
  split
  next x r => exact if_pos (h x r rfl)
  next => rfl

theorem readVersion_append {v : Option Nat} (hv : ∀ n, v = some n → n < UInt32.size) {r : List (List Char)}
    (hr : v = none → Unversioned r) : readVersion (versionFields v ++ r) = some (v, r) := by
  cases v with
  | none => exact readVersion_of_unversioned (hr rfl)
  | some n =>
    have hc : ',' ∉ Nat.toDigits 10 n := fun h =>
      absurd (Nat.isDigit_of_mem_toDigits (by decide) (by decide) h) (by decide)
    rw [versionFields, List.singleton_append, readVersion, if_neg hc, number?_eq_some_iff.2 ⟨rfl, hv n rfl⟩,
      Option.map_some]

theorem eq_append_of_readVersion {r r' : List (List Char)} {v : Option Nat} (h : readVersion r = some (v, r')) :
    r = versionFields v ++ r' ∧ (∀ n, v = some n → n < UInt32.size) ∧ (v = none → Unversioned r') := by
  unfold readVersion at h
  split at h
  next x r =>
    split at h
    next hx =>
      cases h
      refine ⟨rfl, by simp, fun _ y r' e => ?_⟩
      cases e
      exact hx
    next =>
      obtain ⟨n, hn, he⟩ := Option.map_eq_some_iff.1 h
      cases he
      obtain ⟨rfl, hlt⟩ := number?_eq_some_iff.1 hn
      exact ⟨rfl, fun m hm => Option.some.inj hm ▸ hlt, fun e => absurd e (Option.some_ne_none n)⟩
  next hne =>
    cases h
    exact ⟨rfl, by simp, fun _ x r' e => absurd e (hne x r')⟩

/-- A parameter is taken for a version where it is alone and has that name. -/
theorem unversioned_iff {ps : List (List Char × List Char)} (hps : ∀ p ∈ ps, IsParam p) {f : List Char}
    (hf : '=' ∉ f) (r : List (List Char)) :
    Unversioned (paramFields ps ++ f :: r) ↔ ∀ x, ps ≠ [(['v'], x)] := by
  cases ps with
  | nil =>
    refine iff_of_true (fun x r' e => ?_) (by simp)
    obtain ⟨rfl, -⟩ := List.cons.inj e
    simp at hf
  | cons p ps =>
    obtain ⟨name, value⟩ := p
    have hp : IsParam (name, value) := hps _ List.mem_cons_self
    rw [paramFields_cons, List.singleton_append, List.map_cons, intercalate_cons]
    constructor
    · rintro h x e
      obtain ⟨e, rfl⟩ := List.cons.inj e
      cases e
      have hx : ',' ∈ value ++ [] := h (value ++ []) (f :: r) rfl
      rw [List.append_nil] at hx
      exact not_mem_of_isValue hp.2 (by decide) hx
    · intro h x r' e
      obtain ⟨e, -⟩ := List.cons.inj e
      have hn : '=' ∉ name := not_mem_of_isIdent hp.1 (by decide)
      match name, hn with
      | [], _ => cases e
      | [c], _ =>
        cases ps with
        | nil =>
          cases e
          exact absurd rfl (h value)
        | cons q ps =>
          cases e
          simp
      | c :: d :: _, hn =>
        cases e
        simp at hn

/-! Hashes. -/

/-- What can be written and read. -/
structure Proper (h : Phc) : Prop where
  algorithm : isIdent h.algorithm
  version : ∀ n, h.version = some n → n < UInt32.size
  params : ∀ p ∈ h.params, IsParam p
  short : ∀ f ∈ paramFields h.params, f.length ≤ 127
  unversioned : h.version = none → ∀ x, h.params ≠ [(['v'], x)]
  salt : isValue h.salt ∧ 4 ≤ h.salt.length
  output : 10 ≤ h.output.length ∧ h.output.length ≤ 64

theorem dollar_not_mem_versionFields (v : Option Nat) : ∀ f ∈ versionFields v, '$' ∉ f := by
  cases v with
  | none => simp [versionFields]
  | some n =>
    have hd : '$' ∉ Nat.toDigits 10 n := fun h =>
      absurd (Nat.isDigit_of_mem_toDigits (by decide) (by decide) h) (by decide)
    simpa [versionFields] using hd

theorem dollar_not_mem_paramFields {ps : List (List Char × List Char)} (hps : ∀ p ∈ ps, IsParam p) :
    ∀ f ∈ paramFields ps, '$' ∉ f := by
  cases ps with
  | nil => simp [paramFields]
  | cons p ps =>
    obtain ⟨hp, hps⟩ := List.forall_mem_cons.1 hps
    have ht : '$' ∉ ps.flatMap fun q => ',' :: paramText q := by
      intro hm
      obtain ⟨q, hq, hm⟩ := List.mem_flatMap.1 hm
      rcases List.mem_cons.1 hm with e | hm
      · exact absurd e (by decide)
      · exact dollar_not_mem_paramText (hps q hq) hm
    intro f hf
    obtain rfl := List.mem_singleton.1 hf
    rw [List.map_cons, intercalate_cons, List.flatMap_map]
    exact List.not_mem_append (dollar_not_mem_paramText hp) ht

theorem Proper.dollar_not_mem {h : Phc} (hh : h.Proper) : ∀ f ∈ h.fields, '$' ∉ f := by
  intro f hf
  simp only [fields, List.mem_cons, List.mem_append, List.not_mem_nil, or_false] at hf
  rcases hf with rfl | rfl | hf | hf | rfl | rfl
  · exact List.not_mem_nil
  · exact not_mem_of_isIdent hh.algorithm (by decide)
  · exact dollar_not_mem_versionFields _ f hf
  · exact dollar_not_mem_paramFields hh.params f hf
  · exact not_mem_of_isValue hh.salt.1 (by decide)
  · exact Base64.dollar_not_mem_encode _

theorem split_print {h : Phc} (hh : h.Proper) : Text.split '$' h.print.toList = h.fields := by
  rw [print_eq, String.toList_ofList, Text.split_eq_splitOn]
  exact List.splitOn_intercalate '$' hh.dollar_not_mem (List.cons_ne_nil _ _)

/-- A text is read as a hash if it is what the hash is written as, and as nothing otherwise. -/
theorem ofText?_eq_some_iff {s : String} {h : Phc} : ofText? s = some h ↔ h.Proper ∧ h.print = s := by
  constructor
  · intro e
    unfold ofText? at e
    split at e
    next algorithm r hs =>
      simp only [Option.bind_eq_bind, Option.bind_eq_some_iff] at e
      obtain ⟨⟨v, r₁⟩, hv, ⟨ps, r₂⟩, hp, e⟩ := e
      split at e
      next salt output hr₂ =>
        simp only [Option.bind_eq_some_iff] at e
        obtain ⟨b, hb, e⟩ := e
        split at e
        next hc =>
          cases e
          obtain ⟨hr, hver, hun⟩ := eq_append_of_readVersion hv
          obtain ⟨hr₁, hps, hl⟩ := eq_append_of_readParams hp
          obtain rfl : r₂ = [salt, output] := hr₂
          obtain ⟨halg, hsalt, h4, h10, h64⟩ := hc
          have hf : '=' ∉ salt := not_mem_of_isValue hsalt (by decide)
          rw [show r₁ = _ from hr₁] at hun
          refine ⟨⟨halg, hver, hps, hl, fun hn => (unversioned_iff hps hf _).1 (hun hn), ⟨hsalt, h4⟩, h10, h64⟩, ?_⟩
          rw [print_eq, ← String.toList_inj, String.toList_ofList, fields, Base64.encode_of_decode? hb,
            ← hr₁, ← hr, ← hs, Text.split_eq_splitOn, List.intercalate_splitOn]
        next => contradiction
      next => contradiction
    next => contradiction
  · rintro ⟨hh, rfl⟩
    have hf : '=' ∉ h.salt := not_mem_of_isValue hh.salt.1 (by decide)
    have hun (hn : h.version = none) : Unversioned (paramFields h.params ++ h.salt :: [Base64.standard.encode h.output]) :=
      (unversioned_iff hh.params hf _).2 (hh.unversioned hn)
    rw [ofText?, split_print hh, fields]
    simp only [readVersion_append hh.version hun, readParams_append hh.params hh.short hf, Option.bind_eq_bind,
      Option.bind_some, Base64.decode?_encode Base64.standard_lawful]
    exact if_pos ⟨hh.algorithm, hh.salt.1, hh.salt.2, hh.output⟩

end SignIn.Phc
