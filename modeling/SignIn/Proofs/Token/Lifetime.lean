import SignIn.Proofs.Base64
import SignIn.Proofs.Clock
import SignIn.Proofs.Json.ReadBack
import SignIn.Token.Codec

/-! What was issued is verified, for as long as it lasts and for what it was issued. -/

namespace SignIn

theorem TokenHeader.algorithm?_toJson : TokenHeader.algorithm? TokenHeader.toJson = some TokenHeader.algorithm := by
  simp [TokenHeader.algorithm?, TokenHeader.toJson, Json.members, Json.record?, Json.optional?, Functor.discard,
    discard, TokenHeader.oneOf?, Json.alternative?, Json.string, Json.text?]
  decide

@[simp] theorem TokenPurpose.ofJson?_name (p : TokenPurpose) : TokenPurpose.ofJson? (.string p.name) = some p := by
  simp [TokenPurpose.ofJson?, Json.string, Json.alternative?]

theorem Claims.ofJson?_toJson (c : Claims) : Claims.ofJson? c.toJson = some c := by
  simp [Claims.ofJson?, Claims.toJson, Json.members, Json.record?, Claims.fields]

theorem Claims.proper_toJson (c : Claims) : c.toJson.Proper := by
  simp [Claims.toJson, Json.members, Json.Proper, Json.ProperMembers, Json.string, Json.properPieces_ofText]

theorem TokenHeader.proper_toJson : TokenHeader.toJson.Proper := by
  simp [TokenHeader.toJson, Json.members, Json.Proper, Json.ProperMembers, Json.string, Json.properPieces_ofText]

namespace Token

theorem segmentJson_segment {v : Json} (hv : v.Proper) : segmentJson (segment v) = .ok v := by
  rw [segmentJson, segment, Base64.decode?_encode Base64.url_lawful]
  simp only [Json.ofBytes?_print hv]

theorem splitLast?_append {a b : List Char} (hb : '.' ∉ b) : splitLast? (a ++ '.' :: b) = some (a, b) := by
  have hp : ∀ c ∈ b.reverse, decide (c ≠ '.') = true := by
    intro c hc
    have hc : c ≠ '.' := by
      rintro rfl
      exact hb (List.mem_reverse.1 hc)
    simpa using hc
  have hr : (a ++ '.' :: b).reverse = b.reverse ++ '.' :: a.reverse := by simp
  rw [splitLast?, hr, List.dropWhile_append_of_pos hp, List.takeWhile_append_of_pos hp]
  simp

theorem audience_toJson (c : Claims) : audience c.toJson = .ok false := by
  simp [audience, Claims.toJson, Json.members, Json.record?]

theorem point_not_mem_segment (v : Json) : '.' ∉ segment v := Base64.point_not_mem_encode_url _

theorem point_not_mem_signature (secret : String) (message : List Char) : '.' ∉ signature secret message :=
  Base64.point_not_mem_encode_url _

theorem claims_sign (secret : String) (c : Claims) : claims secret (sign secret c) = .ok (c.toJson, c) := by
  simp only [claims, sign, String.toList_ofList]
  rw [splitLast?_append (point_not_mem_signature secret _)]
  dsimp only
  rw [splitLast?_append (point_not_mem_segment c.toJson)]
  simp [segmentJson_segment TokenHeader.proper_toJson, segmentJson_segment c.proper_toJson,
    TokenHeader.algorithm?_toJson, Claims.ofJson?_toJson, bind, Except.bind]

/-- What becomes of a token with these claims. -/
def judge (now : Int) (issuer : String) (purpose : TokenPurpose) (c : Claims) : Except TokenError Claims :=
  if c.expiresAt.toInt < 0 then .error (.malformed (TokenFault.missingClaim "exp").text)
  else if c.expiresAt.toInt < Instant.seconds now then .error .expired
  else if issuer ≠ c.issuer then .error .issuerMismatch
  else if purpose ≠ c.purpose then .error .purposeMismatch
  else .ok c

theorem verify_sign (now : Int) (secret issuer : String) (purpose : TokenPurpose) (c : Claims) :
    verify now secret issuer purpose (sign secret c) = judge now issuer purpose c := by
  have hneg : c.expiresAt < 0 ↔ c.expiresAt.toInt < 0 := Int64.lt_iff_toInt_lt
  have ha : accepted now secret issuer (sign secret c) =
      if c.expiresAt.toInt < 0 then .error (.missingClaim "exp")
      else if c.expiresAt.toInt < Instant.seconds now then .error .expired
      else if c.issuer ≠ issuer then .error .issuer
      else .ok c := by
    simp [accepted, claims_sign, audience_toJson, bind, Except.bind, hneg]
  unfold verify judge
  rw [ha]
  by_cases h0 : c.expiresAt.toInt < 0
  · simp only [h0, if_true]
    rfl
  by_cases h1 : c.expiresAt.toInt < Instant.seconds now
  · simp only [h0, h1, if_true, if_false]
    rfl
  by_cases h2 : c.issuer = issuer
  · by_cases h3 : c.purpose = purpose
    · simp [h0, h1, h2, h3]
    · simp [h0, h1, h2, h3, Ne.symm h3]
  · simp only [h0, h1, h2, Ne.symm h2, ne_eq, not_false_eq_true, if_true, if_false]
    rfl

/-- The claims of a token that is issued at `t` for a time of `ttl`. -/
def issued (t ttl : Int) (issuer : String) (purpose : TokenPurpose) (identity : Identity) : Claims :=
  { identity with
    issuer := issuer
    purpose := purpose
    issuedAt := .ofInt (Instant.seconds t)
    expiresAt := .ofInt (Instant.seconds (t + ttl)) }

theorem issue?_eq_some_iff {t ttl : Int} {secret issuer token : String} {purpose : TokenPurpose}
    {identity : Identity} :
    issue? t secret issuer ttl purpose identity = some token ↔
      Instant.InCalendar (t + ttl) ∧ token = sign secret (issued t ttl issuer purpose identity) := by
  unfold issue? Instant.after? Instant.InCalendar
  by_cases h : Instant.earliest ≤ t + ttl ∧ t + ttl ≤ Instant.latest
  · simp [h, issued, eq_comm]
  · simp [h]

theorem verify_issued {t ttl : Int} {secret issuer token : String} {purpose : TokenPurpose} {identity : Identity}
    (h : issue? t secret issuer ttl purpose identity = some token) (now : Int) (issuer' : String)
    (purpose' : TokenPurpose) :
    verify now secret issuer' purpose' token =
      if Instant.seconds (t + ttl) < 0 then .error (.malformed (TokenFault.missingClaim "exp").text)
      else if Instant.seconds (t + ttl) < Instant.seconds now then .error .expired
      else if issuer' ≠ issuer then .error .issuerMismatch
      else if purpose' ≠ purpose then .error .purposeMismatch
      else .ok (issued t ttl issuer purpose identity) := by
  obtain ⟨hc, rfl⟩ := issue?_eq_some_iff.1 h
  have he : (issued t ttl issuer purpose identity).expiresAt.toInt = Instant.seconds (t + ttl) :=
    Instant.toInt_ofInt_seconds hc
  rw [verify_sign, judge, he]
  rfl

theorem verify_of_le {t ttl now : Int} {secret issuer token : String} {purpose : TokenPurpose} {identity : Identity}
    (h : issue? t secret issuer ttl purpose identity = some token) (h0 : 0 ≤ now)
    (hle : Instant.seconds now ≤ Instant.seconds (t + ttl)) :
    verify now secret issuer purpose token = .ok (issued t ttl issuer purpose identity) := by
  have hpos : ¬Instant.seconds (t + ttl) < 0 := by
    unfold Instant.seconds at *
    omega
  rw [verify_issued h, if_neg hpos, if_neg (Int.not_lt.2 hle), if_neg (not_not_intro rfl), if_neg (not_not_intro rfl)]

theorem verify_of_lt {t ttl now : Int} {secret issuer token : String} {purpose : TokenPurpose} {identity : Identity}
    (h : issue? t secret issuer ttl purpose identity = some token)
    (hlt : Instant.seconds (t + ttl) < Instant.seconds now) :
    ∃ e, verify now secret issuer purpose token = .error e := by
  rw [verify_issued h, if_pos hlt]
  split
  next => exact ⟨_, rfl⟩
  next => exact ⟨_, rfl⟩

/-- A token is accepted for the purpose it was issued for alone, whoever asks and whenever. -/
theorem purpose_eq_of_verify {t ttl : Int} {secret issuer token : String} {purpose : TokenPurpose}
    {identity : Identity} (h : issue? t secret issuer ttl purpose identity = some token) {now : Int}
    {issuer' : String} {purpose' : TokenPurpose} {c : Claims}
    (hv : verify now secret issuer' purpose' token = .ok c) : purpose' = purpose := by
  rw [verify_issued h] at hv
  split at hv <;> try contradiction
  split at hv <;> try contradiction
  split at hv <;> try contradiction
  split at hv
  next => contradiction
  next hp => exact Decidable.not_not.1 hp

/-- What is read from a token that is accepted is what it was issued with. -/
theorem eq_issued_of_verify {t ttl : Int} {secret issuer token : String} {purpose : TokenPurpose}
    {identity : Identity} (h : issue? t secret issuer ttl purpose identity = some token) {now : Int}
    {issuer' : String} {purpose' : TokenPurpose} {c : Claims}
    (hv : verify now secret issuer' purpose' token = .ok c) : c = issued t ttl issuer purpose identity := by
  rw [verify_issued h] at hv
  split at hv <;> try contradiction
  split at hv <;> try contradiction
  split at hv <;> try contradiction
  split at hv
  next => contradiction
  next => exact (Except.ok.inj hv).symm

end Token

theorem TokenCodec.issuePair?_eq_some_iff {k : TokenCodec} {t : Int} {identity : Identity} {pair : TokenPair} :
    k.issuePair? t identity = some pair ↔
      k.issue? t .access identity = some pair.access ∧ k.issue? t .refresh identity = some pair.refresh ∧
        pair.jti = identity.jti := by
  cases ha : k.issue? t .access identity with
  | none => simp [issuePair?, ha]
  | some a => cases hr : k.issue? t .refresh identity with
    | none => simp [issuePair?, ha, hr]
    | some r =>
      cases pair
      simp [issuePair?, ha, hr, eq_comm]

/-- A pair is minted wherever both of its lifetimes end in the calendar. -/
theorem TokenCodec.isSome_issuePair?_iff {k : TokenCodec} {t : Int} {identity : Identity} :
    (k.issuePair? t identity).isSome ↔
      Instant.InCalendar (t + k.accessTtl) ∧ Instant.InCalendar (t + k.refreshTtl) := by
  rw [Option.isSome_iff_exists]
  constructor
  · rintro ⟨pair, h⟩
    obtain ⟨ha, hr, -⟩ := issuePair?_eq_some_iff.1 h
    exact ⟨(Token.issue?_eq_some_iff.1 ha).1, (Token.issue?_eq_some_iff.1 hr).1⟩
  · rintro ⟨ha, hr⟩
    exact ⟨⟨_, _, _⟩, issuePair?_eq_some_iff.2
      ⟨Token.issue?_eq_some_iff.2 ⟨ha, rfl⟩, Token.issue?_eq_some_iff.2 ⟨hr, rfl⟩, rfl⟩⟩

theorem TokenCodec.exists_issuePair {k : TokenCodec} {t : Int} (ha : Instant.InCalendar (t + k.accessTtl))
    (hr : Instant.InCalendar (t + k.refreshTtl)) (identity : Identity) : ∃ pair, k.issuePair? t identity = some pair :=
  Option.isSome_iff_exists.1 (isSome_issuePair?_iff.2 ⟨ha, hr⟩)

namespace Token

/-- Verifying undoes issuing: from its issue to the end of its last second a token is accepted from its issuer and
for its purpose, with the claims it was issued with. The tokens of a pair never pass for one another. -/
theorem verify_issue? (identity : Identity) (secret issuer issuer' : String) (purpose purpose' : TokenPurpose)
    {t ttl : Int} (ht : 0 ≤ t ∧ t ≤ Instant.latest) (he : 0 ≤ t + ttl ∧ t + ttl ≤ Instant.latest) (now : Int) :
    (∃ token c, issue? t secret issuer ttl purpose identity = some token ∧
      verify now secret issuer' purpose' token =
        (if Instant.seconds (t + ttl) < Instant.seconds now then .error .expired
        else if issuer' ≠ issuer then .error .issuerMismatch
        else if purpose' ≠ purpose then .error .purposeMismatch
        else .ok c) ∧
      c.toIdentity = identity ∧ c.issuer = issuer ∧ c.purpose = purpose ∧
      c.issuedAt.toInt = Instant.seconds t ∧ c.expiresAt.toInt = Instant.seconds (t + ttl)) ∧
    ∀ (k : TokenCodec) (t' : Int) (pair : TokenPair), k.issuePair? t' identity = some pair → ∀ c,
      verify now k.secret issuer' .refresh pair.access ≠ .ok c ∧
      verify now k.secret issuer' .access pair.refresh ≠ .ok c := by
  constructor
  · have hc : Instant.InCalendar (t + ttl) := ⟨by unfold Instant.earliest; omega, he.2⟩
    have hn : Instant.InCalendar t := ⟨by unfold Instant.earliest; omega, ht.2⟩
    have h : issue? t secret issuer ttl purpose identity = some _ := issue?_eq_some_iff.2 ⟨hc, rfl⟩
    have hpos : ¬Instant.seconds (t + ttl) < 0 := by unfold Instant.seconds; omega
    refine ⟨_, issued t ttl issuer purpose identity, h, ?_, rfl, rfl, rfl, Instant.toInt_ofInt_seconds hn,
      Instant.toInt_ofInt_seconds hc⟩
    rw [verify_issued h, if_neg hpos]
  · intro k t' pair hp c
    obtain ⟨ha, hr, -⟩ := TokenCodec.issuePair?_eq_some_iff.1 hp
    constructor
    · intro hv
      cases purpose_eq_of_verify ha hv
    · intro hv
      cases purpose_eq_of_verify hr hv

/-- A token is still good in the second in which it ends, and in a pair only as what it is. -/
theorem verify_issue?_last_second :
    let ada : Identity := ⟨-1, "Ada", 3, "j"⟩
    let k : TokenCodec := ⟨"secret", "home", 1000, 86400000⟩
    (∃ token c, issue? 1999 "secret" "home" 1000 .access ada = some token ∧
      verify 2999 "secret" "home" .access token = .ok c ∧ c.toIdentity = ada ∧
      verify 2999 "secret" "away" .refresh token = .error .issuerMismatch) ∧
    ∃ pair, k.issuePair? 1999 ada = some pair ∧ ∀ c, verify 2999 "secret" "home" .refresh pair.access ≠ .ok c := by
  intro ada k
  have bounds : (0 ≤ (1999 : Int) ∧ 1999 ≤ Instant.latest) ∧
      0 ≤ (1999 : Int) + 1000 ∧ 1999 + 1000 ≤ Instant.latest := by
    decide
  obtain ⟨⟨token, c, hi, hv, hc, -⟩, hpair⟩ :=
    verify_issue? ada "secret" "home" "home" .access .access bounds.1 bounds.2 2999
  obtain ⟨⟨token', c', hi', hv', -⟩, -⟩ :=
    verify_issue? ada "secret" "home" "away" .access .refresh bounds.1 bounds.2 2999
  obtain rfl : token = token' := Option.some.inj (hi.symm.trans hi')
  have hp : k.issuePair? 1999 ada = some ⟨_, _, _⟩ := TokenCodec.issuePair?_eq_some_iff.2
    ⟨issue?_eq_some_iff.2 ⟨by decide, rfl⟩, issue?_eq_some_iff.2 ⟨by decide, rfl⟩, rfl⟩
  refine ⟨⟨token, c, hi, ?_, hc, ?_⟩, _, hp, fun c => (hpair k 1999 _ hp c).1⟩
  · rw [hv]
    simp [Instant.seconds]
  · rw [hv']
    simp [Instant.seconds]

end Token
end SignIn
