import SignIn.Proofs.Gateway.Request
import SignIn.Proofs.Json.Record

/-! When a message counts as taken: the gateway has to say so, and what else it says makes no difference. -/

namespace SignIn.Gateway

open Json

/-- What a value says where an error may stand. -/
inductive Names : Json → Option String → Prop where
  | nothing : Names .null none
  | text {s : Pieces} {why : String} (h : s.text? = some why) : Names (.text s) (some why)

/-- What a response says of an error. It is a record, or an array in the place of one; the record may say other
things under other names. -/
inductive Says : Json → Option String → Prop where
  | silent {l : List (Pieces × Json)} (hl : NamesLegible l) (he : valuesOf "error" l = []) : Says (.object l) none
  | record {l : List (Pieces × Json)} {v : Json} {e : Option String} (hl : NamesLegible l)
    (he : valuesOf "error" l = [v]) (hv : Names v e) : Says (.object l) e
  | empty : Says (.array []) none
  | array {v : Json} {e : Option String} (hv : Names v e) : Says (.array [v]) e

/-- The text is a response in JSON that says this. -/
def Answers (body : Bytes) (e : Option String) : Prop := ∃ v, Document v body ∧ Says v e

theorem optional?_text?_eq_some_iff {v : Json} {e : Option String} :
    optional? (·.text?) (some v) = some e ↔ Names v e := by
  constructor
  · intro h
    cases v with
    | null =>
      cases h
      exact .nothing
    | text s =>
      obtain ⟨why, hs, rfl⟩ := Option.map_eq_some_iff.1 h
      exact .text hs
    | _ => contradiction
  · rintro (_ | hs)
    · rfl
    · exact Option.map_eq_some_iff.2 ⟨_, hs, rfl⟩

/-- The one member that is read of a response. -/
theorem record?_error_eq_some_iff {l : List (Pieces × Json)} {values : List (Option Json)} :
    record? ["error"] (.object l) = some values ↔ NamesLegible l ∧
      (valuesOf "error" l = [] ∧ values = [none] ∨ ∃ v, valuesOf "error" l = [v] ∧ values = [some v]) := by
  rw [record?_object_eq_some_iff]
  apply and_congr_right
  intro _
  simp only [List.map_cons, List.map_nil, List.forall_mem_singleton]
  match valuesOf "error" l with
  | [] => simp
  | [v] => simp
  | _ :: _ :: _ => simp

theorem complaint?_eq_some_iff {body : Bytes} {e : Option String} : complaint? body = some e ↔ Answers body e := by
  simp only [complaint?, Option.bind_eq_bind, Option.bind_eq_some_iff, ofBytes?_eq_some_iff]
  refine exists_congr fun v => and_congr_right fun _ => ⟨fun h => ?_, fun h => ?_⟩
  · split at h
    next =>
      cases h
      exact .empty
    next hne =>
      simp only [Option.bind_eq_some_iff] at h
      obtain ⟨values, hv, h⟩ := h
      cases v with
      | array l =>
        simp only [record?, List.length_singleton, Option.ite_none_right_eq_some, Option.some.injEq] at hv
        obtain ⟨hl, rfl⟩ := hv
        obtain ⟨v, rfl⟩ := List.length_eq_one_iff.1 hl
        exact .array (optional?_text?_eq_some_iff.1 h)
      | object l =>
        obtain ⟨hl, ⟨he, rfl⟩ | ⟨v, he, rfl⟩⟩ := record?_error_eq_some_iff.1 hv
        · cases h
          exact .silent hl he
        · exact .record hl he (optional?_text?_eq_some_iff.1 h)
      | _ => contradiction
  · cases h with
    | silent hl he =>
      simp only [Option.bind_eq_some_iff]
      exact ⟨_, record?_error_eq_some_iff.2 ⟨hl, .inl ⟨he, rfl⟩⟩, rfl⟩
    | record hl he hv =>
      simp only [Option.bind_eq_some_iff]
      exact ⟨_, record?_error_eq_some_iff.2 ⟨hl, .inr ⟨_, he, rfl⟩⟩, optional?_text?_eq_some_iff.2 hv⟩
    | empty => rfl
    | array hv => exact optional?_text?_eq_some_iff.2 hv

theorem Answers.unique {body : Bytes} {e f : Option String} (he : Answers body e) (hf : Answers body f) : e = f :=
  Option.some.inj ((complaint?_eq_some_iff.2 he).symm.trans (complaint?_eq_some_iff.2 hf))

theorem isSuccess_iff {r : HttpResponse} : r.isSuccess = true ↔ 200 ≤ r.status ∧ r.status < 300 := by
  rw [HttpResponse.isSuccess, decide_eq_true_eq]
  omega

/-- What becomes of a message, by the response to it. -/
inductive Judged (r : HttpResponse) : Except DeliveryError Unit → Prop where
  | taken (h : r.isSuccess) (he : Answers r.body none ∨ Answers r.body (some "")) : Judged r (.ok ())
  | rejected {why : String} (h : r.isSuccess) (hw : why ≠ "") (he : Answers r.body (some why)) :
    Judged r (.error (.gateway why))
  | failed (h : ¬r.isSuccess) : Judged r (.error (.gateway s!"http status {r.statusText}"))
  | unreadable {why : String} (h : r.isSuccess) (he : ∀ e, ¬Answers r.body e) : Judged r (.error (.request why))

theorem judged_verdict (r : HttpResponse) : Judged r (verdict r) := by
  unfold verdict
  split
  next h => exact .failed (by simpa using h)
  next h =>
    have h : r.isSuccess := by simpa using h
    split
    next hc => exact .unreadable h fun e he => Option.some_ne_none e ((complaint?_eq_some_iff.2 he).symm.trans hc)
    next hc => exact .taken h (.inl (complaint?_eq_some_iff.1 hc))
    next why hc =>
      have he := complaint?_eq_some_iff.1 hc
      split
      next hw => exact .taken h (.inr (hw ▸ he))
      next hw => exact .rejected h hw he

theorem Judged.eq_ok_iff {r : HttpResponse} {x : Except DeliveryError Unit} (hx : Judged r x) :
    x = .ok () ↔ r.isSuccess ∧ (Answers r.body none ∨ Answers r.body (some "")) := by
  cases hx with
  | taken h he => exact iff_of_true rfl ⟨h, he⟩
  | rejected h hw he =>
    refine iff_of_false (by simp) ?_
    rintro ⟨-, hn | hn⟩
    · cases he.unique hn
    · exact hw (Option.some.inj (he.unique hn))
  | failed h => exact iff_of_false (by simp) fun hs => h hs.1
  | unreadable h he => exact iff_of_false (by simp) fun hs => hs.2.elim (he _) (he _)

theorem Judged.eq_gateway_iff {r : HttpResponse} {x : Except DeliveryError Unit} (hx : Judged r x) (why : String) :
    x = .error (.gateway why) ↔
      r.isSuccess ∧ why ≠ "" ∧ Answers r.body (some why) ∨ ¬r.isSuccess ∧ why = s!"http status {r.statusText}" := by
  cases hx with
  | taken h he =>
    refine iff_of_false (by simp) ?_
    rintro (⟨-, hw, hn⟩ | ⟨hs, -⟩)
    · rcases he with he | he
      · cases he.unique hn
      · exact hw (Option.some.inj (hn.unique he))
    · exact hs h
  | rejected h hw he =>
    constructor
    · rintro ⟨⟩
      exact .inl ⟨h, hw, he⟩
    · rintro (⟨-, -, hn⟩ | ⟨hs, -⟩)
      · rw [Option.some.inj (he.unique hn)]
      · exact absurd h hs
  | failed h =>
    constructor
    · rintro ⟨⟩
      exact .inr ⟨h, rfl⟩
    · rintro (⟨hs, -⟩ | ⟨-, rfl⟩)
      · exact absurd hs h
      · rfl
  | unreadable h he =>
    refine iff_of_false (by simp) ?_
    rintro (⟨-, -, hn⟩ | ⟨hs, -⟩)
    · exact he _ hn
    · exact hs h

theorem Judged.eq_request_iff {r : HttpResponse} {x : Except DeliveryError Unit} (hx : Judged r x) :
    (∃ why, x = .error (.request why)) ↔ r.isSuccess ∧ ∀ e, ¬Answers r.body e := by
  cases hx with
  | taken h he => exact iff_of_false (by simp) fun hs => he.elim (hs.2 _) (hs.2 _)
  | rejected h hw he => exact iff_of_false (by simp) fun hs => hs.2 _ he
  | failed h => exact iff_of_false (by simp) fun hs => h hs.1
  | unreadable h he => exact iff_of_true ⟨_, rfl⟩ ⟨h, he⟩

/-- An object says what stands under one name, and nothing under any other. -/
theorem says_object_congr {l k : List (Pieces × Json)} (hk : NamesLegible k)
    (h : valuesOf "error" l = valuesOf "error" k) {e : Option String} : Says (.object l) e → Says (.object k) e
  | .silent _ he => .silent hk (h ▸ he)
  | .record _ he hv => .record hk (h ▸ he) hv

theorem answers_iff {body : Bytes} {v : Json} (h : Document v body) {e : Option String} :
    Answers body e ↔ Says v e := by
  constructor
  · rintro ⟨w, hw, he⟩
    rwa [Option.some.inj ((ofBytes?_eq_some_iff.2 h).symm.trans (ofBytes?_eq_some_iff.2 hw))]
  · exact fun he => ⟨v, h, he⟩

theorem answers_congr {body body' : Bytes} {l k : List (Pieces × Json)} (hl : Document (.object l) body)
    (hk : Document (.object k) body') (nl : NamesLegible l) (nk : NamesLegible k)
    (h : valuesOf "error" l = valuesOf "error" k) (e : Option String) : Answers body e ↔ Answers body' e := by
  rw [answers_iff hl, answers_iff hk]
  exact ⟨says_object_congr nk h, says_object_congr nl h.symm⟩

theorem not_answers {body : Bytes} {l : List (Pieces × Json)} (hl : Document (.object l) body)
    (nl : ¬NamesLegible l) (e : Option String) : ¬Answers body e := by
  rw [answers_iff hl]
  rintro (⟨hl, -⟩ | ⟨hl, -, -⟩) <;> exact nl hl

theorem verdict_congr {r r' : HttpResponse} (hs : r.status = r'.status)
    (h : ∀ e, Answers r.body e ↔ Answers r'.body e) : verdict r = verdict r' := by
  have hc : complaint? r.body = complaint? r'.body :=
    Option.ext fun e => by rw [complaint?_eq_some_iff, complaint?_eq_some_iff, h]
  have hsuccess : r.isSuccess = r'.isSuccess := by rw [HttpResponse.isSuccess, HttpResponse.isSuccess, hs]
  have htext : r.statusText = r'.statusText := by rw [HttpResponse.statusText, HttpResponse.statusText, hs]
  rw [verdict, verdict, hc, hsuccess, htext]

/-- A message counts as taken only if the gateway says so. Whatever response there is, its status and what it says
of an error decide. What an object says under other names makes no difference, so long as these names are texts. -/
theorem takes_gateway_at_its_word {g : Gateway} {m : Message} {client : HttpClient} {q : HttpRequest}
    {r : HttpResponse} (hq : g.request m = .ok q) (hr : client q = .ok r) :
    ((g.post client m).2 = .ok () ↔
      (200 ≤ r.status ∧ r.status < 300) ∧ (Answers r.body none ∨ Answers r.body (some ""))) ∧
    (∀ why, (g.post client m).2 = .error (.gateway why) ↔
      (200 ≤ r.status ∧ r.status < 300) ∧ why ≠ "" ∧ Answers r.body (some why) ∨
      ¬(200 ≤ r.status ∧ r.status < 300) ∧ why = s!"http status {r.statusText}") ∧
    ((∃ why, (g.post client m).2 = .error (.request why)) ↔
      (200 ≤ r.status ∧ r.status < 300) ∧ ∀ e, ¬Answers r.body e) ∧
    (∀ (client' : HttpClient) (r' : HttpResponse) (l k : List (Pieces × Json)), client' q = .ok r' →
      r.status = r'.status → Document (.object l) r.body → Document (.object k) r'.body → NamesLegible l →
      NamesLegible k → valuesOf "error" l = valuesOf "error" k → (g.post client m).2 = (g.post client' m).2) ∧
    ∀ l, Document (.object l) r.body → ¬NamesLegible l → ∀ e, ¬Answers r.body e := by
  have hj := judged_verdict r
  rw [post_eq_verdict hq hr]
  simp only [← isSuccess_iff]
  refine ⟨hj.eq_ok_iff, hj.eq_gateway_iff, hj.eq_request_iff, fun client' r' l k hr' hs hl hk nl nk h => ?_,
    fun l => not_answers⟩
  rw [post_eq_verdict hq hr', verdict_congr hs (answers_congr hl hk nl nk h)]

namespace Sample

theorem takes_gateway_at_its_word_silent :
    gateway.request greeting = .ok posted ∧ (gateway.post (answering "\x7b\x7d") greeting).2 = .ok () := by
  have hq : gateway.request greeting = .ok posted := by decide +kernel
  refine ⟨hq, (@takes_gateway_at_its_word _ _ (answering "\x7b\x7d") _ _ hq rfl).1.2 ⟨by decide, .inl ?_⟩⟩
  exact ⟨.object [], ofBytes?_eq_some_iff.1 rfl, .silent (by simp [NamesLegible]) rfl⟩

/-- A member that says nothing of an error, under a name that is no text, keeps a response from being read. -/
theorem strange_name_refused :
    Document (.object []) (.ofText "\x7b\x7d") ∧
    Document (.object [([.unit 0xD800], .int 1)]) (.ofText "\x7b\"\\ud800\":1\x7d") ∧
    valuesOf "error" [] = valuesOf "error" [([.unit 0xD800], .int 1)] ∧
    (gateway.post (answering "\x7b\x7d") greeting).2 = .ok () ∧
    (gateway.post (answering "\x7b\"\\ud800\":1\x7d") greeting).2 =
      .error (.request "error decoding response body") := by
  refine ⟨ofBytes?_eq_some_iff.1 rfl, ?_, rfl, by decide +kernel, by decide +kernel⟩
  have h : (Json.object [([.unit 0xD800], .int 1)]).print = .ofText "\x7b\"\\ud800\":1\x7d" := by decide +kernel
  rw [← h]
  exact (spells_print (by simp [Proper, ProperMembers, ProperPieces])).document

end Sample
end SignIn.Gateway
