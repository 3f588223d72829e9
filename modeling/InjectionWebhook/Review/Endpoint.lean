/-
# The webhook endpoint

The webhook serves two paths: `POST /inject` answers admission reviews, `GET /healthz` says `ok`.

An admission has a limit.  `Webhook.serve` runs the decision against a cluster whose answers take
time; when the limit passes first, the Pod is refused and nothing else happens.
-/
import InjectionWebhook.Admission.Decision
import InjectionWebhook.Review.Document
import InjectionWebhook.Text.MediaType

namespace InjectionWebhook

/-- A request as it arrives. -/
structure HttpRequest where
  method : String
  target : String
  contentType : Option String
  body : String

/-- The body of an answer. -/
inductive HttpBody where
  | empty
  | text (value : String)
  | json (value : Json)

/-- An answer. -/
structure HttpResponse where
  status : Nat
  body : HttpBody := .empty

/-- What becomes of a request before any decision. -/
inductive Intake where
  /-- It is answered at once. -/
  | reply (response : HttpResponse)
  /-- A Pod is to be decided about. -/
  | consider (review : Review) (request : ReviewRequest) (pod : Pod)

/-- A webhook: its settings, and how long an admission may take. -/
structure Webhook where
  settings : WebhookSettings
  limit : Duration := .ofSeconds 10

namespace Webhook

/-! ## 1. Intake -/

/-- The character may stand in the scheme of a target. -/
def isSchemeChar (c : Char) : Bool := c.isAlphanum || c = '+' || c = '-' || c = '.'

/-- What follows the scheme of a target, if it has one. -/
def afterScheme? : List Char → Option (List Char)
  | ':' :: '/' :: '/' :: rest => some rest
  | c :: rest => if isSchemeChar c then afterScheme? rest else none
  | [] => none

/-- The path of a target, without what follows a question mark or a number sign.  A target may begin
with a scheme and a host; other targets without a slash at their front have no path. -/
def pathOf (target : String) : String :=
  let cs := target.toList.takeWhile fun c => c ≠ '?' && c ≠ '#'
  match cs, afterScheme? cs with
  | '/' :: _, _ => String.ofList cs
  | _, some rest =>
    let path := rest.dropWhile (· ≠ '/')
    if path.isEmpty then "/" else String.ofList path
  | _, none => ""

/-- The review in a body, or the status of a refusal: 400 for a text that is no JSON as far as it is
looked at, 422 for one that is no review. -/
def reviewOf (body : String) : Except Nat Review :=
  (Review.decoder.ofText body).mapError fun flaw => if flaw.isMalformed then 400 else 422

/-- Refuses a request. -/
def refuse (review : Review) (r : ReviewRequest) (e : AdmissionError) : HttpResponse :=
  let answer : ReviewAnswer :=
    { uid := r.uid, allowed := false, message := some e.message, code := some e.code }
  { status := 200, body := .json (answer.toJson review) }

/-- What becomes of a review. -/
def reviewIntake (review : Review) : Intake :=
  match review.request with
  | none => .reply { status := 200, body := .json ReviewAnswer.invalid }
  | some r =>
    match r.object with
    | none => .reply { status := 200, body := .json ((ReviewAnswer.allow r).toJson review) }
    | some o =>
      match o.pod with
      | .ok pod => .consider review r pod
      | .error e => .reply (refuse review r (.undecodable e.message))

/-- How many bytes the body of a request may have. -/
def bodyLimit : Nat := 2 * 1024 * 1024

/-- What becomes of a request. -/
def intake (r : HttpRequest) : Intake :=
  let path := pathOf r.target
  if path = "/healthz" then
    if r.method = "GET" then .reply { status := 200, body := .text "ok" }
    else if r.method = "HEAD" then .reply { status := 200, body := .text "" }
    else .reply { status := 405 }
  else if path = "/inject" then
    if r.method ≠ "POST" then .reply { status := 405 }
    else if !(r.contentType.map MediaType.isJson).getD false then .reply { status := 415 }
    else if bodyLimit < r.body.utf8ByteSize then .reply { status := 413 }
    else match reviewOf r.body with
      | .error status => .reply { status }
      | .ok review => reviewIntake review
  else .reply { status := 404 }

/-! ## 2. Answers -/

/-- The answer to a decision about a Pod. -/
def answerOf (review : Review) (r : ReviewRequest) (pod : Pod) :
    Except AdmissionError Verdict → HttpResponse
  | .error e => refuse review r e
  | .ok (.unchanged note) =>
    { status := 200, body := .json ({ ReviewAnswer.allow r with message := note }.toJson review) }
  | .ok (.patched changed warnings) =>
    let answer := { ReviewAnswer.allow r with patch := some (pod.patchTo changed), warnings }
    { status := 200, body := .json (answer.toJson review) }

/-- The decision about a Pod under review. -/
def decision (w : Webhook) (r : ReviewRequest) (pod : Pod) :
    ClusterDialogue (Except AdmissionError Verdict) :=
  (Admission.decide w.settings (r.namespace_.getD "") pod).run

/-- The answer to a request against a cluster whose answers take time, and the questions asked. -/
def serve (w : Webhook) (answer : (q : Query) → q.Answer) (cost : Query → Duration)
    (r : HttpRequest) : HttpResponse × List Query :=
  match intake r with
  | .reply response => (response, [])
  | .consider review request pod =>
    let (outcome, asked) :=
      (w.decision request pod).runWithin answer (fun q => (cost q).nanoseconds) w.limit.nanoseconds
    (answerOf review request pod (outcome.getD (.error (.expired w.limit))), asked)

end Webhook

end InjectionWebhook
