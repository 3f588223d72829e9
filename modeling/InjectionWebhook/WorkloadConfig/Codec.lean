/-
# Reading and writing workload configs

The records of a workload config mix three disciplines: `apiUrl`, `metadata` and `spec` must be
there; the agent mode, the feature switches and the lists and maps take their default only where
they are absent; the other members may be absent or `null`.  Each record may also be written as the
list of its members in the order given here.  On writing, absent members and empty lists and maps
are left out, while the agent mode and both feature switches are always written.
-/
import InjectionWebhook.WorkloadConfig

namespace InjectionWebhook

/-! ## 1. The parts -/

namespace ProxySpec

/-- Reads proxy settings. -/
def decoder : Decoder ProxySpec := .record "struct ProxySpec" {}
  [.optional "value" .text fun v p => { p with value := v },
   .optional "valueFrom" .text fun v p => { p with valueFrom := v }]

/-- Writes proxy settings. -/
def toJson (p : ProxySpec) : Json := .record
  [("value", p.value.map .str), ("valueFrom", p.valueFrom.map .str)]

end ProxySpec

namespace HostAgent

/-- Reads host agent settings. -/
def decoder : Decoder HostAgent := .record "struct HostInjectSpec" {}
  [.plain "args" (.list .text) fun v h => { h with args := v }]

/-- Writes host agent settings. -/
def toJson (h : HostAgent) : Json := .record
  [("args", if h.args.isEmpty then none else some (.ofList .str h.args))]

end HostAgent

namespace InitResources

/-- Reads requests and limits. -/
def decoder : Decoder InitResources := .record "struct InitResources" {}
  [.plain "requests" (.dict .text) fun v r => { r with requests := v },
   .plain "limits" (.dict .text) fun v r => { r with limits := v }]

/-- Writes requests and limits. -/
def toJson (r : InitResources) : Json := .record
  [("limits", if r.limits.isEmpty then none else some (.ofDict .str r.limits)),
   ("requests", if r.requests.isEmpty then none else some (.ofDict .str r.requests))]

end InitResources

namespace AppInjection

/-- Reads install container settings. -/
def decoder : Decoder AppInjection := .record "struct AppInjectionSpec" {}
  [.optional "initResources" InitResources.decoder fun v a => { a with initResources := v },
   .optional "initImage" .text fun v a => { a with initImage := v }]

/-- Writes install container settings. -/
def toJson (a : AppInjection) : Json := .record
  [("initImage", a.initImage.map .str), ("initResources", a.initResources.map InitResources.toJson)]

end AppInjection

namespace ApplicationMonitoring

/-- Reads application monitoring settings. -/
def decoder : Decoder ApplicationMonitoring := .record "struct ApplicationMonitoringSpec" {}
  [.plain "useCSIDriver" .flag fun v a => { a with useCsiDriver := v },
   .optional "initResources" InitResources.decoder fun v a => { a with initResources := v },
   .optional "initImage" .text fun v a => { a with initImage := v }]

/-- Writes application monitoring settings. -/
def toJson (a : ApplicationMonitoring) : Json := .record
  [("initImage", a.initImage.map .str), ("initResources", a.initResources.map InitResources.toJson),
   ("useCSIDriver", some (.bool a.useCsiDriver))]

end ApplicationMonitoring

namespace AgentMode

/-- Reads the agent mode. -/
def decoder : Decoder AgentMode := .record "struct OneAgentSpec" {}
  [.optional "classicFullStack" HostAgent.decoder fun v m => { m with classicFullStack := v },
   .optional "cloudNativeFullStack" AppInjection.decoder fun v m =>
     { m with cloudNativeFullStack := v },
   .optional "applicationMonitoring" ApplicationMonitoring.decoder fun v m =>
     { m with applicationMonitoring := v },
   .optional "hostMonitoring" HostAgent.decoder fun v m => { m with hostMonitoring := v }]

/-- Writes the agent mode. -/
def toJson (m : AgentMode) : Json := .record
  [("applicationMonitoring", m.applicationMonitoring.map ApplicationMonitoring.toJson),
   ("classicFullStack", m.classicFullStack.map HostAgent.toJson),
   ("cloudNativeFullStack", m.cloudNativeFullStack.map AppInjection.toJson),
   ("hostMonitoring", m.hostMonitoring.map HostAgent.toJson)]

end AgentMode

namespace ActiveGate

/-- Reads gateway settings. -/
def decoder : Decoder ActiveGate := .record "struct ActiveGateSpec" {}
  [.optional "tlsSecretName" .text fun v g => { g with tlsSecretName := v }]

/-- Writes gateway settings. -/
def toJson (g : ActiveGate) : Json := .record [("tlsSecretName", g.tlsSecretName.map .str)]

end ActiveGate

namespace FeatureFlags

/-- Reads feature switches. -/
def decoder : Decoder FeatureFlags := .record "struct FeatureFlags" {}
  [.plain "disableMetadataEnrichment" .flag fun v f => { f with disableMetadataEnrichment := v },
   .plain "enableWebhookReinvocationPolicy" .flag fun v f =>
     { f with enableWebhookReinvocationPolicy := v }]

/-- Writes feature switches. -/
def toJson (f : FeatureFlags) : Json := .record
  [("disableMetadataEnrichment", some (.bool f.disableMetadataEnrichment)),
   ("enableWebhookReinvocationPolicy", some (.bool f.enableWebhookReinvocationPolicy))]

end FeatureFlags

/-! ## 2. The whole -/

namespace WorkloadConfigSpec

/-- The fields of a specification. -/
def fields : List (Field WorkloadConfigSpec) :=
  [.required (.plain "apiUrl" .text fun v s => { s with apiUrl := v }),
   .optional "tokens" .text fun v s => { s with tokens := v },
   .optional "proxy" ProxySpec.decoder fun v s => { s with proxy := v },
   .optional "networkZone" .text fun v s => { s with networkZone := v },
   .plain "oneAgent" AgentMode.decoder fun v s => { s with oneAgent := v },
   .optional "activeGate" ActiveGate.decoder fun v s => { s with activeGate := v },
   .plain "features" FeatureFlags.decoder fun v s => { s with features := v }]

/-- Reads a specification. -/
def decoder : Decoder WorkloadConfigSpec :=
  .record "struct WorkloadConfigSpec" { apiUrl := "" } fields

/-- Writes a specification. -/
def toJson (s : WorkloadConfigSpec) : Json := .record
  [("activeGate", s.activeGate.map ActiveGate.toJson), ("apiUrl", some (.str s.apiUrl)),
   ("features", some s.features.toJson), ("networkZone", s.networkZone.map .str),
   ("oneAgent", some s.oneAgent.toJson), ("proxy", s.proxy.map ProxySpec.toJson),
   ("tokens", s.tokens.map .str)]

end WorkloadConfigSpec

namespace WorkloadConfig

/-- Reads a workload config; its API version and kind are not looked at. -/
def decoder : Decoder WorkloadConfig := .record "struct WorkloadConfig" { spec := { apiUrl := "" } }
  [.required (.plain "metadata" ObjectMeta.decoder fun v c => { c with metadata := v }),
   .required (.plain "spec" WorkloadConfigSpec.decoder fun v c => { c with spec := v })]

/-- Writes a workload config. -/
def toJson (c : WorkloadConfig) : Json := .record
  [("apiVersion", some (.str apiVersion)), ("kind", some (.str kind)),
   ("metadata", some c.metadata.toJson), ("spec", some c.spec.toJson)]

end WorkloadConfig

end InjectionWebhook
