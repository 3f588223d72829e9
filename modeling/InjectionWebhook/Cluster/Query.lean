/-
# What an admission asks of the cluster

An admission talks to the cluster through five look-ups and provisions and one announcement.  A
dialogue over these questions (`ClusterDialogue`) fixes the order of all effects of an admission,
for every behaviour of the cluster.
-/
import InjectionWebhook.Cluster.Failure
import InjectionWebhook.Dialogue
import InjectionWebhook.Injection.Attachment
import InjectionWebhook.Kubernetes.Pod

namespace InjectionWebhook

/-! ## 1. Announcements -/

/-- Why an event is announced. -/
inductive EventReason where
  /-- A Pod was injected for the first time. -/
  | inject
  /-- An injected Pod was repaired. -/
  | updatePod
deriving DecidableEq

/-- The word for a reason. -/
def EventReason.word : EventReason → String
  | .inject => "Inject"
  | .updatePod => "UpdatePod"

/-- An event on a workload config. -/
structure Event where
  /-- Metadata of the config the event is about. -/
  about : ObjectMeta
  reason : EventReason
  note : String

/-- The type of all events. -/
def Event.type : String := "Normal"

/-- The action all events are about: the admission of a Pod. -/
def Event.action : String := "Admit"

/-- The reference to the config an event is about. -/
def Event.regarding (e : Event) : Json := .record
  [("apiVersion", some (.str WorkloadConfig.apiVersion)), ("kind", some (.str WorkloadConfig.kind)),
   ("name", e.about.name.map .str), ("namespace", e.about.namespace_.map .str),
   ("uid", e.about.uid.map .str)]

/-! ## 2. Questions -/

/-- A question to the cluster. -/
inductive Query where
  /-- The namespace with a name. -/
  | namespace_ (name : String)
  /-- The workload config with a name, if there is one. -/
  | workloadConfig (name : String)
  /-- The metadata of an owner in a namespace. -/
  | owner (ref : OwnerReference) (ns : String)
  /-- Makes sure that the injection config secret is in a namespace. -/
  | ensureInitSecret (config : WorkloadConfig) (ns : String)
  /-- Makes sure that the endpoint secret is in a namespace; answers what it says. -/
  | ensureEndpointSecret (config : WorkloadConfig) (ns : String)
  /-- Announces an event; whether that succeeds is not reported. -/
  | announce (event : Event)

/-- What a question is answered by. -/
def Query.Answer : Query → Type
  | .namespace_ _ => Except Failure Namespace
  | .workloadConfig _ => Except Failure (Option WorkloadConfig)
  | .owner _ _ => Except Failure ObjectMeta
  | .ensureInitSecret _ _ => Except Failure Unit
  | .ensureEndpointSecret _ _ => Except Failure EndpointFields
  | .announce _ => Unit

/-- A program that asks questions of the cluster. -/
abbrev ClusterDialogue (α : Type) := Dialogue Query Query.Answer α

namespace Query

/-! ## 3. Asking one question -/

/-- Asks for a namespace. -/
def askNamespace (name : String) : ClusterDialogue (Except Failure Namespace) :=
  .ask (.namespace_ name) .done

/-- Asks for a workload config. -/
def askWorkloadConfig (name : String) : ClusterDialogue (Except Failure (Option WorkloadConfig)) :=
  .ask (.workloadConfig name) .done

/-- Asks for the injection config secret to be there. -/
def askInitSecret (config : WorkloadConfig) (ns : String) : ClusterDialogue (Except Failure Unit) :=
  .ask (.ensureInitSecret config ns) .done

/-- Asks for the endpoint secret to be there. -/
def askEndpointSecret (config : WorkloadConfig) (ns : String) :
    ClusterDialogue (Except Failure EndpointFields) :=
  .ask (.ensureEndpointSecret config ns) .done

/-- Announces an event. -/
def askAnnounce (event : Event) : ClusterDialogue Unit := .ask (.announce event) .done

end Query

/-! ## 4. Lines and events -/

/-- The event a question announces. -/
def Query.event? : Query → Option Event
  | .announce event => some event
  | _ => none

/-- The word for what a question asks; announcements have none. -/
def Query.verb? : Query → Option String
  | .namespace_ _ => some "get_namespace"
  | .workloadConfig _ => some "get_workload_config"
  | .owner _ _ => some "get_owner_metadata"
  | .ensureInitSecret _ _ => some "ensure_init_secret"
  | .ensureEndpointSecret _ _ => some "ensure_endpoint_secret"
  | .announce _ => none

/-- The names in a question. -/
def Query.names : Query → List String
  | .namespace_ name => [name]
  | .workloadConfig name => [name]
  | .owner ref ns => [ref.apiVersion, ref.kind, ref.name, ns]
  | .ensureInitSecret config ns => [config.name, ns]
  | .ensureEndpointSecret config ns => [config.name, ns]
  | .announce _ => []

/-- A question in one line: its word and its names, with spaces between them. -/
def Query.line? (q : Query) : Option String :=
  q.verb?.map fun verb => " ".intercalate (verb :: q.names)

end InjectionWebhook
