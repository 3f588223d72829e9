/-
# Admission reviews

The document an API server sends to ask about a Pod, and the document it gets back.

The object under review is read in two stages.  Its metadata is part of the review: a mistake there
spoils the whole review.  The rest is looked at only when the Pod is read from it
(`ReviewedObject.pod`).
-/
import InjectionWebhook.Json.Patch
import InjectionWebhook.Kubernetes.Pod
import InjectionWebhook.Review.DocumentType

namespace InjectionWebhook

/-! ## 1. Objects under review -/

/-- An object under review. -/
structure ReviewedObject where
  /-- API version and kind, known only where both are given once and as texts. -/
  type : Option DocumentType
  metadata : ObjectMeta
  /-- All other members. -/
  others : List (String × Json)

namespace ReviewedObject

/-- Reads an object under review. -/
def decoder : Decoder ReviewedObject := fun w => do
  let (metadata, members) ← Decoder.openRecord "struct DynamicObject" {}
    [.plain "metadata" ObjectMeta.decoder fun v _ => v] w
  let (type, others) := DocumentType.take members
  return { type := type.toOption, metadata, others }

/-- The object as a document again; of several members with one name the last counts. -/
def toJson (o : ReviewedObject) : Json :=
  let typed := match o.type with
    | some t => [("apiVersion", .str t.apiVersion), ("kind", .str t.kind)]
    | none => []
  .obj (Dict.ofList (typed ++ ("metadata", o.metadata.toJson) :: o.others)).entries

/-- The Pod under review. -/
def pod (o : ReviewedObject) : Except Flaw Pod := Pod.decoder.ofJson o.toJson

end ReviewedObject

/-! ## 2. Questions -/

/-- What is asked about. -/
structure ReviewRequest where
  uid : String := ""
  namespace_ : Option String := none
  object : Option ReviewedObject := none

/-- A review: the type of document it is, and what it asks. -/
structure Review where
  type : DocumentType
  request : Option ReviewRequest

/-- A field of a record of which only the form is checked. -/
def Field.checked (key : String) (d : Decoder α) : Field σ := .plain key d fun _ s => s

namespace ReviewForm

/-- Kind of an object: group, version and kind. -/
def kind : Decoder Unit := .record "struct GroupVersionKind" ()
  [.required (.checked "group" .text), .required (.checked "version" .text),
   .required (.checked "kind" .text)]

/-- Kind of resource: group, version and plural, and their common name. -/
def resource : Decoder Unit := .record "struct GroupVersionResource" ()
  [.required (.checked "group" .text), .required (.checked "version" .text),
   .required (.checked "resource" .text), .checked "api_version" .text]

/-- Who asks. -/
def requester : Decoder Unit := .object "UserInfo" ()
  [.checked "extra" (.nullable (.dict (.list .text))), .checked "groups" (.nullable (.list .text)),
   .checked "uid" (.nullable .text), .checked "username" (.nullable .text)]

/-- What is done to the object. -/
def operation : Decoder String := .word ["CREATE", "UPDATE", "DELETE", "CONNECT"] "enum Operation"

/-- A cause of a status. -/
def statusCause : Decoder Unit := .record "struct StatusCause" ()
  [.checked "reason" .text, .checked "message" .text, .checked "field" .text]

/-- Details of a status. -/
def statusDetails : Decoder Unit := .record "struct StatusDetails" ()
  [.checked "name" .text, .checked "group" .text, .checked "kind" .text, .checked "uid" .text,
   .checked "causes" (.list statusCause),
   .checked "retryAfterSeconds" (.integer 0 4294967295 "u32")]

/-- A status. -/
def status : Decoder Unit := .record "struct Status" ()
  [.checked "status" (.nullable (.word ["Success", "Failure"] "enum StatusSummary")),
   .checked "code" (.integer 0 65535 "u16"), .checked "message" .text, .checked "reason" .text,
   .checked "details" (.nullable statusDetails)]

/-- The answer that a review may already hold. -/
def answer : Decoder Unit := .record "struct AdmissionResponse" ()
  [.required (.checked "uid" .text), .required (.checked "allowed" .flag),
   .required (.checked "status" status),
   .requiredInLists (.checked "patch" (.nullable (.list (.integer 0 255 "u8")))),
   .requiredInLists (.checked "patchType" (.nullable (.word ["JSONPatch"] "enum PatchType"))),
   .checked "auditAnnotations" (.dict .text),
   .requiredInLists (.checked "warnings" (.nullable (.list .text)))]

end ReviewForm

namespace ReviewRequest

/-- The fields of what is asked about.  Most of them are checked only for their form. -/
def fields : List (Field ReviewRequest) :=
  [.required (.plain "uid" .text fun v r => { r with uid := v }),
   .required (.checked "kind" ReviewForm.kind),
   .required (.checked "resource" ReviewForm.resource),
   .checked "subResource" (.nullable .text),
   .checked "requestKind" (.nullable ReviewForm.kind),
   .checked "requestResource" (.nullable ReviewForm.resource),
   .checked "requestSubResource" (.nullable .text),
   .checked "name" .text,
   .optional "namespace" .text fun v r => { r with namespace_ := v },
   .required (.checked "operation" ReviewForm.operation),
   .required (.checked "userInfo" ReviewForm.requester),
   .requiredInLists (.optional "object" ReviewedObject.decoder fun v r => { r with object := v }),
   .requiredInLists (.checked "oldObject" (.nullable ReviewedObject.decoder)),
   .checked "dryRun" .flag,
   .checked "options" (.nullable .any)]

/-- Reads what is asked about. -/
def decoder : Decoder ReviewRequest := .record "struct AdmissionRequest" {} fields

end ReviewRequest

/-- Reads a review. -/
def Review.decoder : Decoder Review := fun w => do
  let (request, members) ← Decoder.openRecord "struct AdmissionReview" none
    [.optional "request" ReviewRequest.decoder fun v _ => v,
     .checked "response" (.nullable ReviewForm.answer)] w
  match (DocumentType.take members).1 with
  | .ok type => return { type, request }
  | .error m => throw (m.at_ w.extent.stop)

/-! ## 3. Answers -/

/-- The answer to a review. -/
structure ReviewAnswer where
  uid : String
  allowed : Bool
  message : Option String := none
  code : Option Nat := none
  patch : Option Json.Patch := none
  warnings : List String := []

/-- Writes one operation of a patch. -/
def Json.PatchOp.toJson : PatchOp → Json
  | .add path value =>
    .obj [("op", .str "add"), ("path", .str path.pointer), ("value", value)]
  | .remove path => .obj [("op", .str "remove"), ("path", .str path.pointer)]
  | .replace path value =>
    .obj [("op", .str "replace"), ("path", .str path.pointer), ("value", value)]

/-- Writes a patch. -/
def Json.Patch.toJson (patch : Patch) : Json := .ofList PatchOp.toJson patch

/-- The patch that turns one Pod into another. -/
def Pod.patchTo (old new : Pod) : Json.Patch := Json.diff old.toJson new.toJson

namespace ReviewAnswer

/-- The answer that lets the object pass as it is. -/
def allow (r : ReviewRequest) : ReviewAnswer := { uid := r.uid, allowed := true }

/-- Writes an answer into a review of the same kind of document as the question. -/
def toJson (a : ReviewAnswer) (review : Review) : Json := .record
  [("apiVersion", some (.str review.type.apiVersion)), ("kind", some (.str review.type.kind)),
   ("response", some (.record
     [("allowed", some (.bool a.allowed)), ("patch", a.patch.map Json.Patch.toJson),
      ("patchType", a.patch.map fun _ => .str "JSONPatch"),
      ("status", some (.record
         [("code", a.code.map fun n => .int n), ("message", a.message.map .str)])),
      ("uid", some (.str a.uid)),
      ("warnings", if a.warnings.isEmpty then none else some (.ofList .str a.warnings))]))]

/-- The answer to a review that asks nothing. -/
def invalid : Json := .record
  [("apiVersion", some (.str "admission.k8s.io/v1beta1")), ("kind", some (.str "AdmissionReview")),
   ("response", some (.record
     [("allowed", some (.bool false)),
      ("status", some (.record
        [("message", some (.str "failed to convert AdmissionReview into AdmissionRequest")),
         ("reason", some (.str "InvalidRequest")), ("status", some (.str "Failure"))])),
      ("uid", some (.str ""))]))]

end ReviewAnswer

end InjectionWebhook
