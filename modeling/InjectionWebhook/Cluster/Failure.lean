/-
# What can go wrong in the cluster

A look-up or a write fails for one of five causes.  The API server's own refusals come with a
status; a request can also fail before it is sent, or its answer may not be the object that was
asked for.

* `Failure.message` is the text of a failure;
* `Failure.isNotFound` tells whether it means that the object does not exist, which it does in two
  cases only (`Failure.isNotFound_iff`).
-/
import InjectionWebhook.Json.Decode

namespace InjectionWebhook

/-- A refusal by the API server. -/
structure ApiStatus where
  code : Nat
  message : String
  reason : String
deriving DecidableEq

/-- Why a request brought no object. -/
inductive RequestFailure where
  | refused (status : ApiStatus)
  /-- The name of the object is empty; nothing was sent. -/
  | emptyName
  /-- The path holds a character that no path can hold; nothing was sent. -/
  | invalidPath
  /-- The answer is not an object of the expected kind. -/
  | undecodable (cause : Flaw)

/-- A failed operation on the cluster. -/
inductive Failure where
  | request (cause : RequestFailure)
  | notFound (kind name : String)
  | invalid (field message : String)
  | serialization (message : String)
  | internal (context message : String)

namespace ApiStatus

/-- The text of a refusal: the message, the reason, and all of it once more in detail. -/
def text (s : ApiStatus) : String :=
  "ApiError: " ++ s.message ++ ": " ++ s.reason ++
    " (ErrorResponse \x7b status: \"Failure\", message: " ++ Text.quoted s.message ++
    ", reason: " ++ Text.quoted s.reason ++ ", code: " ++ toString s.code ++ " \x7d)"

end ApiStatus

/-- The text of a failed request. -/
def RequestFailure.message : RequestFailure → String
  | .refused status => status.text
  | .emptyName =>
    "Failed to build request: failed to validate request: A non-empty name is required"
  | .invalidPath => "Failed to build request: failed to build request: invalid uri character"
  | .undecodable cause => "Error deserializing response: " ++ cause.message

namespace Failure

/-- The text of a failure. -/
def message : Failure → String
  | .request cause => "kubernetes error: " ++ cause.message
  | .notFound kind name => kind ++ " '" ++ name ++ "' not found"
  | .invalid _ message => "validation error: " ++ message
  | .serialization message => "serialization error: " ++ message
  | .internal context message => "internal error [" ++ context ++ "]: " ++ message

/-- The failure means that the object does not exist: a refusal counts by its code alone. -/
def isNotFound : Failure → Bool
  | .notFound _ _ => true
  | .request (.refused status) => status.code = 404
  | _ => false

/-- The failures that mean that the object does not exist: something is said to be not found, or the
API server refuses with the code 404. -/
inductive MeansAbsent : Failure → Prop
  | notFound (kind name : String) : MeansAbsent (.notFound kind name)
  | refused {status : ApiStatus} (code : status.code = 404) :
      MeansAbsent (.request (.refused status))

/-- **These failures count as not found, and no others.** -/
theorem isNotFound_iff {e : Failure} : e.isNotFound = true ↔ e.MeansAbsent := by
  constructor
  · intro h
    match e with
    | .notFound kind name => exact .notFound kind name
    | .request (.refused status) => exact .refused (of_decide_eq_true h)
  · rintro (_ | code)
    · rfl
    · exact decide_eq_true code

instance (e : Failure) : Decidable e.MeansAbsent := decidable_of_iff _ isNotFound_iff

/-- The failure is the API server's word that nothing has the name: it counts by its reason
alone. -/
def saysNotFound : Failure → Bool
  | .request (.refused status) => status.reason = "NotFound"
  | _ => false

/-- The failure is the API server's word that the name is taken: it counts by its code alone. -/
def saysConflict : Failure → Bool
  | .request (.refused status) => status.code = 409
  | _ => false

end Failure

end InjectionWebhook
