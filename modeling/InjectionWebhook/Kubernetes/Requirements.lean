/-
# What a container may do and needs

The security context of a container, the resources it requests and is limited to, and the ports it
serves.
-/
import InjectionWebhook.Json.Record

namespace InjectionWebhook

/-! ## 1. Security context, resources and ports -/

/-- Kernel capabilities given or taken. -/
structure KernelCapabilities where
  add : Option (List String) := none
  drop : Option (List String) := none
deriving DecidableEq

/-- What a container may do. -/
structure SecurityContext where
  allowPrivilegeEscalation : Option Bool := none
  capabilities : Option KernelCapabilities := none
  privileged : Option Bool := none
  readOnlyRootFilesystem : Option Bool := none
  runAsGroup : Option Int := none
  runAsNonRoot : Option Bool := none
  runAsUser : Option Int := none
  /-- Type of the seccomp profile. -/
  seccompType : Option String := none
deriving DecidableEq

/-- Requested and allowed amounts, quantities kept as text. -/
structure Resources where
  limits : Option (Dict String) := none
  requests : Option (Dict String) := none
deriving DecidableEq

/-- A port that a container serves. -/
structure ContainerPort where
  containerPort : Int
  name : Option String := none
  protocol : Option String := none
deriving DecidableEq

/-! ## 2. Reading and writing -/

namespace KernelCapabilities

/-- Reads kernel capabilities. -/
def decoder : Decoder KernelCapabilities := .object "Capabilities" {}
  [.optional "add" (.list .text) fun v c => { c with add := v },
   .optional "drop" (.list .text) fun v c => { c with drop := v }]

/-- Writes kernel capabilities. -/
def toJson (c : KernelCapabilities) : Json := .record
  [("add", c.add.map (.ofList .str)), ("drop", c.drop.map (.ofList .str))]

end KernelCapabilities

namespace SecurityContext

/-- Reads the type of a seccomp profile. -/
def seccompDecoder : Decoder String := .object "SeccompProfile" ""
  [.orDefault "type" .text "" fun v _ => v]

/-- Reads a security context. -/
def decoder : Decoder SecurityContext := .object "SecurityContext" {}
  [.optional "allowPrivilegeEscalation" .flag fun v s => { s with allowPrivilegeEscalation := v },
   .optional "capabilities" KernelCapabilities.decoder fun v s => { s with capabilities := v },
   .optional "privileged" .flag fun v s => { s with privileged := v },
   .optional "readOnlyRootFilesystem" .flag fun v s => { s with readOnlyRootFilesystem := v },
   .optional "runAsGroup" .int64 fun v s => { s with runAsGroup := v },
   .optional "runAsNonRoot" .flag fun v s => { s with runAsNonRoot := v },
   .optional "runAsUser" .int64 fun v s => { s with runAsUser := v },
   .optional "seccompProfile" seccompDecoder fun v s => { s with seccompType := v }]

/-- Writes a security context. -/
def toJson (s : SecurityContext) : Json := .record
  [("allowPrivilegeEscalation", s.allowPrivilegeEscalation.map .bool),
   ("capabilities", s.capabilities.map KernelCapabilities.toJson),
   ("privileged", s.privileged.map .bool),
   ("readOnlyRootFilesystem", s.readOnlyRootFilesystem.map .bool),
   ("runAsGroup", s.runAsGroup.map .int), ("runAsNonRoot", s.runAsNonRoot.map .bool),
   ("runAsUser", s.runAsUser.map .int),
   ("seccompProfile", s.seccompType.map fun t => .record [("type", some (.str t))])]

end SecurityContext

namespace Resources

/-- Reads a quantity.  An integer stands for its decimal text. -/
def quantityDecoder : Decoder String
  | .leaf _ (.ok (.str s)) => .ok s
  | .leaf _ (.ok (.int n)) => .ok (toString n)
  | w => .error (w.unfit "Quantity")

/-- Reads resource requirements. -/
def decoder : Decoder Resources := .object "ResourceRequirements" {}
  [.optional "limits" (.dict quantityDecoder) fun v r => { r with limits := v },
   .optional "requests" (.dict quantityDecoder) fun v r => { r with requests := v }]

/-- Writes resource requirements. -/
def toJson (r : Resources) : Json := .record
  [("limits", r.limits.map (.ofDict .str)), ("requests", r.requests.map (.ofDict .str))]

end Resources

namespace ContainerPort

/-- Reads a port. -/
def decoder : Decoder ContainerPort := .object "ContainerPort" { containerPort := 0 }
  [.orDefault "containerPort" .int32 0 fun v p => { p with containerPort := v },
   .optional "name" .text fun v p => { p with name := v },
   .optional "protocol" .text fun v p => { p with protocol := v }]

/-- Writes a port. -/
def toJson (p : ContainerPort) : Json := .record
  [("containerPort", some (.int p.containerPort)), ("name", p.name.map .str),
   ("protocol", p.protocol.map .str)]

end ContainerPort

end InjectionWebhook
