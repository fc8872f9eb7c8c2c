import Mathlib.Data.List.DropRight
import SignIn.Gateway
import SignIn.Proofs.Json.Legible

/-! What the gateway is asked, and where: the texts of the message arrive as they are, each under its own name,
whatever they say. -/

namespace SignIn.Gateway

/-- What is told of a message, and under which name. Whom mail comes from is told only where it is set. -/
inductive Told (a : SmscAccount) (mailFrom : Option String) : Message → String → Json → Prop where
  | login (m : Message) : Told a mailFrom m "login" (.string a.user)
  | psw (m : Message) : Told a mailFrom m "psw" (.string a.password)
  | phones (m : Message) : Told a mailFrom m "phones" (.string m.address)
  | mes (m : Message) : Told a mailFrom m "mes" (.string m.body)
  | subj (address subject body : String) : Told a mailFrom (.mail address subject body) "subj" (.string subject)
  | mail (address subject body : String) : Told a mailFrom (.mail address subject body) "mail" (.int 1)
  | sender (address subject body : String) {sender : String} (h : mailFrom = some sender) :
    Told a mailFrom (.mail address subject body) "sender" (.string sender)

def slashes (n : Nat) : String := .ofList (.replicate n '/')

variable {a : SmscAccount} {mailFrom : Option String}

theorem Told.legible {m : Message} {name : String} {v : Json} (h : Told a mailFrom m name v) :
    Bytes.Legible v.print := by
  cases h with
  | mail => exact Json.legible_printInt 1
  | _ => exact Json.legible_printString _

theorem Told.proper {m : Message} {name : String} {v : Json} (h : Told a mailFrom m name v) : v.Proper := by
  cases h with
  | mail => trivial
  | _ => exact Json.properPieces_ofText _

/-- The form holds what is told, each under its name and no name twice. -/
theorem exists_form (a : SmscAccount) (mailFrom : Option String) (m : Message) :
    ∃ l, (ofAccount a mailFrom).form m = .members l ∧ (l.map Prod.fst).Nodup ∧
      ∀ name v, (name, v) ∈ l ↔ Told a mailFrom m name v := by
  refine ⟨_, rfl, ?_, fun name v => ⟨fun h => ?_, fun h => ?_⟩⟩
  · cases m with
    | sms => exact (by decide : ["login", "psw", "phones", "mes"].Nodup)
    | mail =>
      cases mailFrom with
      | none => exact (by decide : ["login", "psw", "phones", "mes", "subj", "mail"].Nodup)
      | some => exact (by decide : ["login", "psw", "phones", "mes", "subj", "sender", "mail"].Nodup)
  · rcases List.mem_append.1 h with h | h
    · simp only [List.mem_cons, List.not_mem_nil, or_false, Prod.mk.injEq] at h
      rcases h with ⟨rfl, rfl⟩ | ⟨rfl, rfl⟩ | ⟨rfl, rfl⟩ | ⟨rfl, rfl⟩
      exacts [.login m, .psw m, .phones m, .mes m]
    · cases m with
      | sms => contradiction
      | mail address subject body =>
        simp only [List.cons_append, List.mem_cons, List.mem_append, Option.mem_toList, Option.map_eq_some_iff,
          List.not_mem_nil, or_false, Prod.mk.injEq] at h
        rcases h with ⟨rfl, rfl⟩ | ⟨f, hf, rfl, rfl⟩ | ⟨rfl, rfl⟩
        exacts [.subj .., .sender _ _ _ hf, .mail ..]
  · cases h with
    | sender _ _ _ hf => simp [ofAccount, hf]
    | _ => simp [ofAccount]

/-- Reading the body of a request gives back the form. -/
theorem ofBytes?_render_form (a : SmscAccount) (mailFrom : Option String) (m : Message) :
    Json.ofBytes? (Bytes.ofText ((ofAccount a mailFrom).form m).render) = some ((ofAccount a mailFrom).form m) := by
  obtain ⟨l, hl, -, told⟩ := exists_form a mailFrom m
  have proper {l : List (String × Json)} (h : ∀ p ∈ l, p.2.Proper) : (Json.members l).Proper := by
    induction l with
    | nil => trivial
    | cons p l ih => exact ⟨Json.properPieces_ofText _, h p List.mem_cons_self, ih fun q hq => h q (.tail p hq)⟩
  rw [hl]
  exact Json.ofBytes?_render_members (fun p hp => ((told _ _).1 hp).legible)
    (proper fun p hp => ((told _ _).1 hp).proper)

theorem endpointOf_eq (host : String) :
    endpointOf host = .ofList (host.toList.rdropWhile (· = '/')) ++ "/rest/send/" := rfl

theorem endpointOf_append_slashes (host : String) (n : Nat) : endpointOf (host ++ slashes n) = endpointOf host := by
  rw [endpointOf_eq, endpointOf_eq, slashes, String.toList_append, String.toList_ofList]
  congr 2
  induction n with
  | zero => rw [List.replicate_zero, List.append_nil]
  | succ n ih => rw [List.replicate_succ', ← List.append_assoc, List.rdropWhile_concat_pos _ _ _ (by simp), ih]

/-- A host is what the endpoint starts with, and slashes. -/
theorem exists_stem (host : String) : ∃ stem n, host = stem ++ slashes n ∧ stem.toList.getLast? ≠ some '/' ∧
    endpointOf host = stem ++ "/rest/send/" := by
  refine ⟨.ofList (host.toList.rdropWhile (· = '/')), (host.toList.rtakeWhile (· = '/')).length, ?_, ?_,
    endpointOf_eq host⟩
  · have hr : host.toList.rtakeWhile (· = '/') = .replicate (host.toList.rtakeWhile (· = '/')).length '/' :=
      List.eq_replicate_of_mem fun c hc => by simpa using List.mem_rtakeWhile_imp hc
    rw [← String.toList_inj, slashes, ← hr, String.toList_append, String.toList_ofList, String.toList_ofList,
      List.rdropWhile_append_rtakeWhile]
  · rw [String.toList_ofList]
    intro h
    have hne : host.toList.rdropWhile (· = '/') ≠ [] := by
      intro e
      simp [e] at h
    rw [List.getLast?_eq_some_getLast hne] at h
    exact List.rdropWhile_last_not _ _ hne (by simp [Option.some.inj h])

/-- A client that keeps a list of the requests it was sent. -/
def noting (client : HttpClient) (q : HttpRequest) : StateM (List HttpRequest) (Except String HttpResponse) :=
  modifyGet fun sent => (client q, sent ++ [q])

variable {g : Gateway} {m : Message} {client client' : HttpClient} {q : HttpRequest}

theorem post_of_error {e : UrlError} (h : g.request m = .error e) :
    (g.post client m).2 = .error (.request s!"builder error: {e.message}") := by
  simp only [post, postBy, h]
  rfl

theorem post_of_failed {why : String} (hq : g.request m = .ok q) (h : client q = .error why) :
    (g.post client m).2 = .error (.request why) := by
  simp only [post, postBy, hq, pure_bind, h]
  rfl

theorem post_eq_verdict {r : HttpResponse} (hq : g.request m = .ok q) (hr : client q = .ok r) :
    (g.post client m).2 = verdict r := by
  simp only [post, postBy, hq, pure_bind, hr]
  rfl

/-- Nothing but the request for the message is asked of the client. -/
theorem post_congr (h : ∀ q, g.request m = .ok q → client q = client' q) : g.post client m = g.post client' m := by
  cases hq : g.request m with
  | error e => simp only [post, postBy, hq]
  | ok q => simp only [post, postBy, hq, pure_bind, h q hq]

/-- The request for the message goes out, once, where there is one. -/
theorem run_postBy_noting (client : HttpClient) (g : Gateway) (m : Message) (sent : List HttpRequest) :
    (postBy (noting client) g m).run sent = (g.post client m, sent ++ (g.request m).toOption.toList) := by
  cases hq : g.request m with
  | error e =>
    simp only [post, postBy, hq]
    exact congrArg _ (List.append_nil sent).symm
  | ok q =>
    -- the request is noted, and the rest goes on with the reply
    have hrun (f : Except String HttpResponse → StateM (List HttpRequest) (List LogLine × Except DeliveryError Unit)) :
        (noting client q >>= f).run sent = (f (client q)).run (sent ++ [q]) := rfl
    simp only [post, postBy, hq, pure_bind, hrun]
    cases client q <;> rfl

namespace Sample

def gateway : Gateway := ofAccount ⟨"http://gateway.test", "ada", "countess"⟩ none

def greeting : Message := .sms "77011234567" "hi"

def posted : HttpRequest where
  url := ⟨"http", some "gateway.test", none, "/rest/send/", none⟩
  body := "\x7b\"login\":\"ada\",\"psw\":\"countess\",\"phones\":\"77011234567\",\"mes\":\"hi\"\x7d"

/-- Answers every request with this. -/
def answering (s : String) : HttpClient := fun _ => .ok ⟨200, .ofText s⟩

end Sample
end SignIn.Gateway
