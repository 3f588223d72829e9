/-
# Deciding about a Pod

`Admission.decide` is the whole decision about one Pod: find the config its namespace is bound to,
see which capabilities apply, make sure of the supporting secrets, and then inject the Pod or repair
it.

Each step that can fail ends the admission with the matching error; an event is announced last,
exactly when the Pod was changed.
-/
import InjectionWebhook.Admission.Error
import InjectionWebhook.Admission.Owner
import InjectionWebhook.Injection.Repair

namespace InjectionWebhook

/-- What every admission depends on beside the request. -/
structure WebhookSettings where
  /-- Image of the install container where the config names none. -/
  image : String
  clusterId : String
  /-- The storage driver that publishes agent binaries. -/
  driver : String := defaultDriver
  /-- How many owners may be fetched for one Pod. -/
  ownerDepth : Nat := Owner.defaultDepth

/-- What becomes of a Pod. -/
inductive Verdict where
  | unchanged (note : Option String)
  | patched (pod : Pod) (warnings : List String)

namespace Admission

/-- A dialogue that may end with an admission error. -/
abbrev Attempt (α : Type) := ExceptT AdmissionError (Dialogue Query Query.Answer) α

/-- Runs a dialogue that may fail, and says what its failure means to the admission. -/
def orElse (d : ClusterDialogue (Except Failure α)) (wrap : Failure → AdmissionError) : Attempt α :=
  ExceptT.mk (d.bind fun r => .done (r.mapError wrap))

/-! ## 1. The bound config -/

/-- The namespace label that names the config. -/
def bindingLabel : String := "beacon.dev/instance"

/-- The namespace, and the config it is bound to. -/
def binding (ns : String) : Attempt (Namespace × WorkloadConfig) := do
  let found ← orElse (Query.askNamespace ns) (.namespaceLookup ns)
  match (found.metadata.labels.getD .empty).get? bindingLabel with
  | none => throw (.unbound ns)
  | some name =>
    let wrap (e : Failure) : AdmissionError :=
      if e.isNotFound then .configMissing name ns else .configLookup name e
    match ← orElse (Query.askWorkloadConfig name) wrap with
    | some config => return (found, config)
    | none => throw (.configMissing name ns)

/-! ## 2. The supporting secrets -/

/-- The first field an enriched container cannot do without that is missing or empty. -/
def missingField? (fields : EndpointFields) : Option String :=
  [ingestUrlKey, ingestTokenKey].find? fun key => fields.textOr key "" = ""

/-- Makes sure of the secrets that the features need; answers the endpoint fields for enrichment. -/
def provision (config : WorkloadConfig) (features : Features) (ns : String) :
    Attempt (Option EndpointFields) := do
  orElse (Query.askInitSecret config ns) (.secrets ns)
  if features.dataIngest then
    let fields ← orElse (Query.askEndpointSecret config ns) (.secrets ns)
    match missingField? fields with
    | some key => throw (.secrets ns (.invalid key "data-ingest endpoint field is missing"))
    | none => return some fields
  else return none

/-! ## 3. Injection and repair -/

/-- Announces an event about a config. -/
def announce (config : WorkloadConfig) (reason : EventReason) (note : String) : Attempt Unit :=
  ExceptT.lift (Query.askAnnounce { about := config.metadata, reason, note })

/-- Injects a Pod without marker. -/
def inject (s : WebhookSettings) (ns : String) (i : Injection) (pod : Pod) : Attempt Verdict := do
  let workload ←
    if i.features.dataIngest then
      some <$> orElse (Owner.resolve pod.metadata ns s.ownerDepth) (.owner pod.label)
    else pure none
  announce i.config .inject
    ("Injecting the necessary info into pod " ++ pod.label ++ " in namespace " ++ ns)
  return .patched ({ i with workload }.inject pod) i.config.previewWarnings

/-- Repairs a Pod with marker, if the config asks for repairs and the Pod needs one. -/
def repair (ns : String) (i : Injection) (pod : Pod) : Attempt Verdict := do
  if i.config.repairsPods && (i.repair pod).2 then
    announce i.config .updatePod
      ("Updating pod " ++ pod.label ++ " in namespace " ++ ns ++ " with missing containers")
    return .patched (i.repair pod).1 i.config.previewWarnings
  else return .unchanged none

/-! ## 4. The decision -/

/-- The features of a Pod under a config. -/
def features (config : WorkloadConfig) (pod : Pod) : Features :=
  let asked := Features.ofAnnotations pod.metadata.annotationMap
  if config.disablesEnrichment then asked.without .dataIngest else asked

/-- The note where the config injects no applications. -/
def injectionOffNote : String := "app injection is disabled"

/-- The note where the Pod has every capability switched off. -/
def featuresOffNote : String := "no features are enabled, skipping injection"

/-- Everything an injection depends on, the workload apart. -/
def injection (s : WebhookSettings) (config : WorkloadConfig) (pod : Pod)
    (endpoint : Option EndpointFields) : Injection :=
  { config
    features := features config pod
    settings := .ofAnnotations pod.metadata.annotationMap (config.initImage?.getD s.image)
    driver := s.driver
    metadata := deploymentMetadata config s.clusterId
    endpoint }

/-- The decision about a Pod in a namespace. -/
def decide (s : WebhookSettings) (ns : String) (pod : Pod) : Attempt Verdict := do
  let (found, config) ← binding ns
  if !config.injectsApplications then return .unchanged (some injectionOffNote)
  else if !(features config pod).any then return .unchanged (some featuresOffNote)
  else
    let ns := found.metadata.nameOrEmpty
    let endpoint ← provision config (features config pod) ns
    let i := injection s config pod endpoint
    if pod.metadata.annotationMap.marksInjected then repair ns i pod else inject s ns i pod

end Admission

end InjectionWebhook
