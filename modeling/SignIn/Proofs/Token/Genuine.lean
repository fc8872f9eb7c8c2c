import SignIn.Proofs.Json.Record
import SignIn.Proofs.Token.Lifetime

/-! No token is accepted but one that says what it is accepted for, under a digest of just that. -/

namespace SignIn

theorem Except.bind_eq_ok_iff {ε α β : Type} {x : Except ε α} {f : α → Except ε β} {b : β} :
    (x >>= f) = .ok b ↔ ∃ a, x = .ok a ∧ f a = .ok b := by
  cases x <;> simp [bind, Except.bind]

/-- Every claim stands in the object once. -/
structure Claims.WrittenIn (c : Claims) (l : List (Pieces × Json)) : Prop where
  issuer : Json.Tells l "iss" Json.text? c.issuer
  userId : Json.Tells l "sub" Json.int64? c.userId
  userName : Json.Tells l "user_name" Json.text? c.userName
  roleId : Json.Tells l "role_id" Json.int64? c.roleId
  jti : Json.Tells l "jti" Json.text? c.jti
  purpose : Json.Tells l "typ" TokenPurpose.ofJson? c.purpose
  issuedAt : Json.Tells l "iat" Json.int64? c.issuedAt
  expiresAt : Json.Tells l "exp" Json.int64? c.expiresAt

theorem Claims.writtenIn_of_ofJson? {c : Claims} {l : List (Pieces × Json)}
    (h : Claims.ofJson? (.object l) = some c) : c.WrittenIn l := by
  simp only [ofJson?, Option.bind_eq_bind, Option.bind_eq_some_iff] at h
  obtain ⟨values, hr, h⟩ := h
  obtain ⟨hv, h1⟩ := Json.record?_object hr
  split at h
  next =>
    simp only [fields, List.map_cons, List.map_nil, List.cons.injEq, and_true] at hv
    simp only [fields, List.forall_mem_cons] at h1
    simp only [Option.bind_eq_some_iff, Option.pure_def, Option.some.injEq] at h
    obtain ⟨v1, v2, v3, v4, v5, v6, v7, v8⟩ := hv
    obtain ⟨l1, l2, l3, l4, l5, l6, l7, l8, -⟩ := h1
    obtain ⟨iss, r1, sub, r2, name, r3, role, r4, jti, r5, typ, r6, iat, r7, exp, r8, rfl⟩ := h
    exact ⟨Json.tells_of_head? v1 l1 r1, Json.tells_of_head? v2 l2 r2, Json.tells_of_head? v3 l3 r3,
      Json.tells_of_head? v4 l4 r4, Json.tells_of_head? v5 l5 r5, Json.tells_of_head? v6 l6 r6,
      Json.tells_of_head? v7 l7 r7, Json.tells_of_head? v8 l8 r8⟩
  next => contradiction

namespace Token

theorem splitLast?_eq_some_iff {s a b : List Char} : splitLast? s = some (a, b) ↔ s = a ++ '.' :: b ∧ '.' ∉ b := by
  constructor
  · intro h
    have hs : s = (s.reverse.takeWhile (· ≠ '.') ++ s.reverse.dropWhile (· ≠ '.')).reverse := by
      rw [List.takeWhile_append_dropWhile, List.reverse_reverse]
    simp only [splitLast?] at h
    split at h
    next => contradiction
    next c front hd =>
      have hc : c = '.' := by
        have := List.head?_dropWhile_not (fun c => decide (c ≠ '.')) s.reverse
        rw [hd] at this
        simpa using this
      obtain ⟨rfl, rfl⟩ := Prod.mk.inj (Option.some.inj h)
      constructor
      · rw [hd, hc, List.reverse_append, List.reverse_cons, List.append_assoc] at hs
        exact hs
      · intro hm
        have := List.all_eq_true.1 List.all_takeWhile '.' (List.mem_reverse.1 hm)
        simp at this
  · rintro ⟨rfl, hb⟩
    exact splitLast?_append hb

theorem segmentJson_eq_ok_iff {s : List Char} {v : Json} :
    segmentJson s = .ok v ↔ ∃ b, s = Base64.url.encode b ∧ Json.ofBytes? b = some v := by
  constructor
  · intro h
    unfold segmentJson at h
    split at h
    next => contradiction
    next b hb =>
      split at h
      next => contradiction
      next w hw =>
        obtain rfl := Except.ok.inj h
        exact ⟨b, (Base64.encode_of_decode? hb).symm, hw⟩
  · rintro ⟨b, rfl, hv⟩
    simp only [segmentJson, Base64.decode?_encode Base64.url_lawful, hv]

/-- A text in three parts. -/
structure Parts where
  header : List Char
  payload : List Char
  mark : List Char

namespace Parts

def message (x : Parts) : List Char := x.header ++ '.' :: x.payload

def text (x : Parts) : String := .ofList (x.message ++ '.' :: x.mark)

/-- The text is divided at its last two points. -/
def AtLast (x : Parts) : Prop := '.' ∉ x.payload ∧ '.' ∉ x.mark

/-- The algorithm that the header names. -/
def algorithm? (x : Parts) : Option String :=
  (segmentJson x.header).toOption.bind TokenHeader.algorithm?

/-- The second in which the payload says that it expires. -/
def expiry? (x : Parts) : Option Int64 :=
  match segmentJson x.payload with
  | .ok (.object l) => match Json.valuesOf "exp" l with
    | [v] => v.int64?
    | _ => none
  | _ => none

/-- A header for the algorithm used here, the claims `c`, and the digest of these two. -/
structure Genuine (x : Parts) (secret : String) (c : Claims) : Prop where
  header : ∃ b v, x.header = Base64.url.encode b ∧ Json.ofBytes? b = some v ∧ TokenHeader.algorithm? v = some "HS256"
  payload : ∃ b l, x.payload = Base64.url.encode b ∧ Json.ofBytes? b = some (.object l) ∧
    Claims.ofJson? (.object l) = some c ∧ c.WrittenIn l
  mark : x.mark = Base64.url.encode (hmacSha256 (Bytes.ofText secret) (Bytes.ofText (.ofList x.message)))

/-- A text is divided at its last two points in one way. -/
theorem eq_of_text_eq {x y : Parts} (hx : x.AtLast) (hy : y.AtLast) (h : x.text = y.text) : x = y := by
  have h : x.message ++ '.' :: x.mark = y.message ++ '.' :: y.mark := String.ofList_injective h
  have hl := (splitLast?_append hx.2).symm.trans ((congrArg splitLast? h).trans (splitLast?_append hy.2))
  obtain ⟨hm, hs⟩ := Prod.mk.inj (Option.some.inj hl)
  have hl := (splitLast?_append hx.1).symm.trans ((congrArg splitLast? hm).trans (splitLast?_append hy.1))
  obtain ⟨hh, hp⟩ := Prod.mk.inj (Option.some.inj hl)
  cases x
  cases y
  subst hh hp hs
  rfl

namespace Genuine

variable {x : Parts} {secret : String} {c : Claims}

theorem atLast (h : x.Genuine secret c) : x.AtLast := by
  obtain ⟨b, l, hp, -⟩ := h.payload
  constructor
  · rw [hp]
    exact Base64.point_not_mem_encode_url b
  · rw [h.mark]
    exact Base64.point_not_mem_encode_url _

theorem count_point (h : x.Genuine secret c) : x.text.toList.count '.' = 2 := by
  obtain ⟨b, v, hh, -⟩ := h.header
  have h1 : x.header.count '.' = 0 := List.count_eq_zero.2 (hh ▸ Base64.point_not_mem_encode_url b)
  have h2 : x.payload.count '.' = 0 := List.count_eq_zero.2 h.atLast.1
  have h3 : x.mark.count '.' = 0 := List.count_eq_zero.2 h.atLast.2
  simp [text, message, h1, h2, h3]

theorem algorithm?_eq (h : x.Genuine secret c) : x.algorithm? = some "HS256" := by
  obtain ⟨b, v, hh, hv, ha⟩ := h.header
  rw [algorithm?, segmentJson_eq_ok_iff.2 ⟨b, hh, hv⟩]
  exact ha

theorem expiry?_eq (h : x.Genuine secret c) : x.expiry? = some c.expiresAt := by
  obtain ⟨b, l, hp, hl, -, hw⟩ := h.payload
  obtain ⟨v, hv, he⟩ := hw.expiresAt
  rw [expiry?, segmentJson_eq_ok_iff.2 ⟨b, hp, hl⟩]
  simp only [hv, he]

/-- What stands behind the last point is the digest of what stands before it. -/
theorem eq_signature {m s : List Char} (h : x.Genuine secret c) (ht : x.text = .ofList (m ++ '.' :: s))
    (hs : '.' ∉ s) : s = signature secret m := by
  have hl := congrArg splitLast? (String.ofList_injective ht)
  rw [splitLast?_append h.atLast.2, splitLast?_append hs] at hl
  obtain ⟨rfl, rfl⟩ := Prod.mk.inj (Option.some.inj hl)
  exact h.mark

end Genuine
end Parts

/-- Claims are read from an object: an array cannot hold as many values as they are and as many as an audience and
a start take. -/
theorem exists_object_of_audience {v : Json} {c : Claims} {named : Bool} (hc : Claims.ofJson? v = some c)
    (ha : audience v = .ok named) : ∃ l, v = .object l := by
  cases v with
  | object l => exact ⟨l, rfl⟩
  | array l =>
    by_cases h : l.length = 2
    · simp [Claims.ofJson?, Json.record?, Claims.fields, h] at hc
    · simp [audience, Json.record?, h] at ha
  | _ => simp [Claims.ofJson?, Json.record?] at hc

theorem claims_eq_ok {secret token : String} {v : Json} {c : Claims} (h : claims secret token = .ok (v, c)) :
    Claims.ofJson? v = some c ∧ ∃ x : Parts, x.text = token ∧ segmentJson x.payload = .ok v ∧
      x.mark = signature secret x.message ∧ ∃ b w, x.header = Base64.url.encode b ∧ Json.ofBytes? b = some w ∧
        TokenHeader.algorithm? w = some TokenHeader.algorithm := by
  unfold claims at h
  split at h <;> try contradiction
  next message mark hm =>
  split at h <;> try contradiction
  next header payload hp =>
  obtain ⟨w, hw, h⟩ := Except.bind_eq_ok_iff.1 h
  split at h <;> try contradiction
  next algorithm ha =>
  split at h <;> try contradiction
  next heq =>
  split at h <;> try contradiction
  next hs =>
  obtain ⟨v', hv, h⟩ := Except.bind_eq_ok_iff.1 h
  split at h <;> try contradiction
  next c' hc =>
  obtain ⟨rfl, rfl⟩ := Prod.mk.inj (Except.ok.inj h)
  obtain ⟨ht, -⟩ := splitLast?_eq_some_iff.1 hm
  obtain ⟨rfl, -⟩ := splitLast?_eq_some_iff.1 hp
  obtain ⟨b, hb, hj⟩ := segmentJson_eq_ok_iff.1 hw
  refine ⟨hc, ⟨header, payload, mark⟩, ?_, hv, Decidable.not_not.1 hs, b, w, hb, hj, ?_⟩
  · rw [Parts.text, Parts.message, ← ht, String.ofList_toList]
  · rw [ha, Decidable.not_not.1 heq]

theorem exists_genuine_of_verify {now : Int} {secret issuer token : String} {purpose : TokenPurpose} {c : Claims}
    (h : verify now secret issuer purpose token = .ok c) :
    c.issuer = issuer ∧ c.purpose = purpose ∧ 0 ≤ c.expiresAt ∧ Instant.seconds now ≤ c.expiresAt.toInt ∧
      ∃ x : Parts, x.text = token ∧ x.Genuine secret c := by
  unfold verify at h
  split at h <;> try contradiction
  next c' hv =>
  split at h <;> try contradiction
  next hp =>
  obtain rfl := Except.ok.inj h
  obtain ⟨⟨v, c⟩, hc, h⟩ := Except.bind_eq_ok_iff.1 hv
  obtain ⟨named, ha, h⟩ := Except.bind_eq_ok_iff.1 h
  split at h <;> try contradiction
  next h0 =>
  split at h <;> try contradiction
  next ht =>
  split at h <;> try contradiction
  next hi =>
  split at h <;> try contradiction
  obtain rfl := Except.ok.inj h
  obtain ⟨hc, x, hx, hv, hm, b, w, hb, hw, halg⟩ := claims_eq_ok hc
  obtain ⟨l, rfl⟩ := exists_object_of_audience hc ha
  obtain ⟨b', hb', hl⟩ := segmentJson_eq_ok_iff.1 hv
  exact ⟨Decidable.not_not.1 hi, hp, Int64.not_lt.1 h0, Int.not_lt.1 ht, x, hx, ⟨b, w, hb, hw, halg⟩,
    ⟨b', l, hb', hl, hc, Claims.writtenIn_of_ofJson? hc⟩, hm⟩

/-- What is accepted now was accepted before: time only takes tokens away. -/
theorem verify_earlier {t now : Int} {secret issuer token : String} {purpose : TokenPurpose} {c : Claims} (ht : t ≤ now)
    (h : verify now secret issuer purpose token = .ok c) : verify t secret issuer purpose token = .ok c := by
  have accepted_earlier {c : Claims} (hv : accepted now secret issuer token = .ok c) :
      accepted t secret issuer token = .ok c := by
    obtain ⟨⟨v, c'⟩, hc, hv⟩ := Except.bind_eq_ok_iff.1 hv
    obtain ⟨named, ha, hv⟩ := Except.bind_eq_ok_iff.1 hv
    refine Except.bind_eq_ok_iff.2 ⟨_, hc, Except.bind_eq_ok_iff.2 ⟨_, ha, ?_⟩⟩
    by_cases hexp : c'.expiresAt.toInt < Instant.seconds now
    · rw [if_pos hexp] at hv
      split at hv <;> contradiction
    · rw [if_neg hexp] at hv
      have hexp' : ¬c'.expiresAt.toInt < Instant.seconds t := by
        unfold Instant.seconds at hexp ⊢
        omega
      rwa [if_neg hexp']
  unfold verify at h ⊢
  split at h <;> try contradiction
  next c' hv =>
  rw [accepted_earlier hv]
  exact h

/-- Nothing but a signed token of this issuer and purpose that has not expired is accepted. So the digest of a text
that is accepted is determined by what it is a digest of, a text without exactly two points is not accepted, and
neither is one whose header does not name the one algorithm or whose payload does not say when it expires. -/
theorem verify_genuine (secret issuer : String) (purpose : TokenPurpose) (now : Int) :
    (∀ token c, verify now secret issuer purpose token = .ok c →
      (∃ x : Parts, x.AtLast ∧ x.text = token ∧ x.Genuine secret c) ∧
      c.issuer = issuer ∧ c.purpose = purpose ∧ 0 ≤ c.expiresAt ∧ Instant.seconds now ≤ c.expiresAt.toInt) ∧
    (∀ m s s' now' issuer' purpose' c c', '.' ∉ s → '.' ∉ s' →
      verify now secret issuer purpose (.ofList (m ++ '.' :: s)) = .ok c →
      verify now' secret issuer' purpose' (.ofList (m ++ '.' :: s')) = .ok c' → s = s') ∧
    (∀ token, token.toList.count '.' ≠ 2 → ∀ c, verify now secret issuer purpose token ≠ .ok c) ∧
    ∀ x : Parts, x.AtLast → x.algorithm? ≠ some "HS256" ∨ (∀ n, x.expiry? = some n → n < 0) →
      ∀ c, verify now secret issuer purpose x.text ≠ .ok c := by
  refine ⟨?_, ?_, ?_, ?_⟩
  · intro token c h
    obtain ⟨hi, hp, h0, ht, x, hx, hg⟩ := exists_genuine_of_verify h
    exact ⟨⟨x, hg.atLast, hx, hg⟩, hi, hp, h0, ht⟩
  · intro m s s' now' issuer' purpose' c c' hs hs' h h'
    obtain ⟨-, -, -, -, x, hx, hg⟩ := exists_genuine_of_verify h
    obtain ⟨-, -, -, -, y, hy, hg'⟩ := exists_genuine_of_verify h'
    rw [hg.eq_signature hx hs, hg'.eq_signature hy hs']
  · intro token hn c h
    obtain ⟨-, -, -, -, x, rfl, hg⟩ := exists_genuine_of_verify h
    exact hn hg.count_point
  · intro x hx hbad c h
    obtain ⟨-, -, h0, -, y, hy, hg⟩ := exists_genuine_of_verify h
    obtain rfl := Parts.eq_of_text_eq hg.atLast hx hy
    rcases hbad with ha | he
    · exact ha hg.algorithm?_eq
    · exact Int64.not_lt.2 h0 (he _ hg.expiry?_eq)

/-- A token that was issued is so divided, and no other digest will do for it. -/
theorem verify_genuine_issued :
    let ada : Identity := ⟨-1, "Ada", 3, "j"⟩
    ∃ token c, verify 2999 "secret" "home" .access token = .ok c ∧
      (∃ x : Parts, x.AtLast ∧ x.text = token ∧ x.Genuine "secret" c) ∧ c.toIdentity = ada ∧
      ∀ m s s' c', token = .ofList (m ++ '.' :: s) → '.' ∉ s → '.' ∉ s' →
        verify 0 "secret" "home" .access (.ofList (m ++ '.' :: s')) = .ok c' → s = s' := by
  intro ada
  have hi : issue? 1999 "secret" "home" 1000 .access ada = some _ := issue?_eq_some_iff.2 ⟨by decide, rfl⟩
  have hv : verify 2999 "secret" "home" .access _ = .ok _ := verify_of_le hi (by decide) (by decide)
  obtain ⟨hgenuine, hmark, -⟩ := verify_genuine "secret" "home" .access 2999
  refine ⟨_, _, hv, (hgenuine _ _ hv).1, rfl, ?_⟩
  intro m s s' c' ht hs hs' hv'
  exact hmark m s s' 0 "home" .access _ c' hs hs' (ht ▸ hv) hv'

end Token
end SignIn
