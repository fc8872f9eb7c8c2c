import SignIn.Http
import SignIn.Json.Printer
import SignIn.Json.Reader
import SignIn.Message
import SignIn.Settings

/-! The gateway that carries text messages and mail. It takes JSON, and a message counts as taken only if it
says so. -/

namespace SignIn

structure Gateway where
  endpoint : String
  login : String
  password : String
  mailFrom : Option String
  deriving DecidableEq

namespace Gateway

/-- The host may end in any number of slashes. -/
def endpointOf (host : String) : String :=
  .ofList ((host.toList.reverse.dropWhile (· = '/')).reverse) ++ "/rest/send/"

def ofAccount (a : SmscAccount) (mailFrom : Option String) : Gateway :=
  ⟨endpointOf a.host, a.user, a.password, mailFrom⟩

def form (g : Gateway) (m : Message) : Json :=
  let common : List (String × Json) := [
    ("login", .string g.login),
    ("psw", .string g.password),
    ("phones", .string m.address),
    ("mes", .string m.body)]
  .members <| common ++ match m with
    | .sms .. => []
    | .mail _ subject _ =>
      ("subj", .string subject) :: (g.mailFrom.map fun s => ("sender", .string s)).toList ++ [("mail", .int 1)]

def request (g : Gateway) (m : Message) : Except UrlError HttpRequest := do
  return ⟨← Url.parse g.endpoint, (g.form m).render⟩

/-- The error that a response names, if it has the form of a response. -/
def complaint? (body : Bytes) : Option (Option String) := do
  match ← Json.ofBytes? body with
  | .array [] => some none
  | v => match ← v.record? ["error"] with
    | [e] => Json.optional? (·.text?) e
    | _ => none

/-- What becomes of a message that was responded to. Why a body cannot be read is left out of the text. -/
def verdict (r : HttpResponse) : Except DeliveryError Unit :=
  if !r.isSuccess then .error (.gateway s!"http status {r.statusText}")
  else match complaint? r.body with
    | none => .error (.request "error decoding response body")
    | some none => .ok ()
    | some (some why) => if why = "" then .ok () else .error (.gateway why)

/-- What is logged about a response. -/
def remark (r : HttpResponse) : List LogLine :=
  if !r.isSuccess then [⟨.error, s!"SMSC gateway answered with status {r.statusText}", []⟩]
  else match verdict r with
    | .error (.gateway why) => [⟨.error, s!"SMSC gateway rejected message: {why}", []⟩]
    | _ => []

/-- Posts a message by `send`, through which requests go out. -/
def postBy {μ : Type → Type} [Monad μ] (send : HttpRequest → μ (Except String HttpResponse)) (g : Gateway)
    (m : Message) : μ (List LogLine × Except DeliveryError Unit) := do
  let posting : LogLine := ⟨.debug, s!"Posting message to SMSC gateway {g.endpoint}", []⟩
  match g.request m with
  | .error e => return ([posting], .error (.request s!"builder error: {e.message}"))
  | .ok q => match ← send q with
    | .error why => return ([posting], .error (.request why))
    | .ok r => return (posting :: remark r, verdict r)

def post (client : HttpClient) (g : Gateway) (m : Message) : List LogLine × Except DeliveryError Unit :=
  Id.run (postBy (fun q => pure (client q)) g m)

def carrier (client : HttpClient) (g : Gateway) : Carrier := ⟨post client g⟩

end Gateway
end SignIn
