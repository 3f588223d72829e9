/-
# Pods and namespaces

The two built-in objects an admission works with.  On reading, `apiVersion` and `kind` may be
absent, but if they are there they have to be the object's own; on writing they are always there.
-/
import InjectionWebhook.Kubernetes.Container
import InjectionWebhook.Kubernetes.Metadata
import InjectionWebhook.Kubernetes.Volume

namespace InjectionWebhook

/-- What is to run in a Pod. -/
structure PodSpec where
  containers : List Container := []
  initContainers : Option (List Container) := none
  volumes : Option (List Volume) := none
  nodeName : Option String := none
  restartPolicy : Option String := none
  serviceAccountName : Option String := none
  hostNetwork : Option Bool := none
  terminationGracePeriodSeconds : Option Int := none
deriving DecidableEq

/-- What is known about a running Pod. -/
structure PodStatus where
  phase : Option String := none
deriving DecidableEq

/-- A Pod. -/
structure Pod where
  metadata : ObjectMeta := {}
  spec : Option PodSpec := none
  status : Option PodStatus := none
deriving DecidableEq

instance : Inhabited Pod := ⟨{}⟩

/-- A namespace. -/
structure Namespace where
  metadata : ObjectMeta := {}
deriving DecidableEq

namespace PodSpec

/-- The fields of the specification of a Pod. -/
def fields : List (Field PodSpec) :=
  [.orDefault "containers" (.list Container.decoder) [] fun v s => { s with containers := v },
   .optional "hostNetwork" .flag fun v s => { s with hostNetwork := v },
   .optional "initContainers" (.list Container.decoder) fun v s => { s with initContainers := v },
   .optional "nodeName" .text fun v s => { s with nodeName := v },
   .optional "restartPolicy" .text fun v s => { s with restartPolicy := v },
   .optional "serviceAccountName" .text fun v s => { s with serviceAccountName := v },
   .optional "terminationGracePeriodSeconds" .int64 fun v s =>
     { s with terminationGracePeriodSeconds := v },
   .optional "volumes" (.list Volume.decoder) fun v s => { s with volumes := v }]

/-- Reads the specification of a Pod. -/
def decoder : Decoder PodSpec := .object "PodSpec" {} fields

/-- Writes the specification of a Pod. -/
def toJson (s : PodSpec) : Json := .record
  [("containers", some (.ofList Container.toJson s.containers)),
   ("hostNetwork", s.hostNetwork.map .bool),
   ("initContainers", s.initContainers.map (.ofList Container.toJson)),
   ("nodeName", s.nodeName.map .str), ("restartPolicy", s.restartPolicy.map .str),
   ("serviceAccountName", s.serviceAccountName.map .str),
   ("terminationGracePeriodSeconds", s.terminationGracePeriodSeconds.map .int),
   ("volumes", s.volumes.map (.ofList Volume.toJson))]

end PodSpec

namespace PodStatus

/-- Reads the status of a Pod. -/
def decoder : Decoder PodStatus := .object "PodStatus" {}
  [.optional "phase" .text fun v s => { s with phase := v }]

/-- Writes the status of a Pod. -/
def toJson (s : PodStatus) : Json := .record [("phase", s.phase.map .str)]

end PodStatus

namespace Pod

/-- The application containers of a Pod. -/
def containers (p : Pod) : List Container := (p.spec.map (·.containers)).getD []

/-- The name, or the name prefix while the name is still unassigned. -/
def label (p : Pod) : String := (p.metadata.name <|> p.metadata.generateName).getD ""

/-- The fields of a Pod. -/
def fields : List (Field Pod) :=
  [.constant "apiVersion" "v1",
   .constant "kind" "Pod",
   .orDefault "metadata" ObjectMeta.decoder {} fun v p => { p with metadata := v },
   .optional "spec" PodSpec.decoder fun v p => { p with spec := v },
   .optional "status" PodStatus.decoder fun v p => { p with status := v }]

/-- Reads a Pod. -/
def decoder : Decoder Pod := .object "Pod" {} fields

/-- Writes a Pod. -/
def toJson (p : Pod) : Json := .record
  [("apiVersion", some (.str "v1")), ("kind", some (.str "Pod")),
   ("metadata", some p.metadata.toJson), ("spec", p.spec.map PodSpec.toJson),
   ("status", p.status.map PodStatus.toJson)]

end Pod

namespace Namespace

/-- Reads a namespace. -/
def decoder : Decoder Namespace := .object "Namespace" {}
  [.constant "apiVersion" "v1",
   .constant "kind" "Namespace",
   .orDefault "metadata" ObjectMeta.decoder {} fun v n => { n with metadata := v }]

/-- Writes a namespace. -/
def toJson (n : Namespace) : Json := .record
  [("apiVersion", some (.str "v1")), ("kind", some (.str "Namespace")),
   ("metadata", some n.metadata.toJson)]

end Namespace

end InjectionWebhook
