/-
# Workload configs

A workload config says how the Pods of the namespaces bound to it are instrumented: which agent mode
is on, where the agent reports to, and which optional features are switched on.

The accessors here are the only way in which the rest of the library looks at a config.  Empty texts
count as absent wherever an accessor says "non-empty".
-/
import InjectionWebhook.Kubernetes.Container
import InjectionWebhook.Kubernetes.Metadata

namespace InjectionWebhook

/-! ## 1. The record -/

/-- The proxy of the agents: inline, or the name of a secret that holds it. -/
structure ProxySpec where
  value : Option String := none
  valueFrom : Option String := none
deriving DecidableEq

/-- Settings of a host agent. -/
structure HostAgent where
  args : List String := []
deriving DecidableEq

/-- Requests and limits of the install container. -/
structure InitResources where
  requests : Dict String := .empty
  limits : Dict String := .empty
deriving DecidableEq

/-- Settings of the install container. -/
structure AppInjection where
  initResources : Option InitResources := none
  initImage : Option String := none
deriving DecidableEq

/-- Settings of application-only monitoring. -/
structure ApplicationMonitoring where
  useCsiDriver : Bool := false
  initResources : Option InitResources := none
  initImage : Option String := none
deriving DecidableEq

/-- The agent mode: at most one section is expected to be there. -/
structure AgentMode where
  classicFullStack : Option HostAgent := none
  cloudNativeFullStack : Option AppInjection := none
  applicationMonitoring : Option ApplicationMonitoring := none
  hostMonitoring : Option HostAgent := none
deriving DecidableEq

/-- The gateway that injected agents talk to. -/
structure ActiveGate where
  tlsSecretName : Option String := none
deriving DecidableEq

/-- Feature switches. -/
structure FeatureFlags where
  disableMetadataEnrichment : Bool := false
  enableWebhookReinvocationPolicy : Bool := false
deriving DecidableEq

/-- What a workload config specifies. -/
structure WorkloadConfigSpec where
  apiUrl : String
  tokens : Option String := none
  proxy : Option ProxySpec := none
  networkZone : Option String := none
  oneAgent : AgentMode := {}
  activeGate : Option ActiveGate := none
  features : FeatureFlags := {}
deriving DecidableEq

/-- A workload config. -/
structure WorkloadConfig where
  metadata : ObjectMeta := {}
  spec : WorkloadConfigSpec
deriving DecidableEq

/-- How the install container gets the agent binaries. -/
inductive InstallMode where
  /-- They are published into the Pod by the storage driver. -/
  | provisioned
  /-- The install container downloads them. -/
  | installer
deriving DecidableEq

/-- The word for an install mode. -/
def InstallMode.word : InstallMode → String
  | .provisioned => "provisioned"
  | .installer => "installer"

/-- The text, if there is one and it is not empty. -/
def nonEmpty? (s : Option String) : Option String := s.filter fun s => !s.isEmpty

theorem nonEmpty?_eq_some_iff {given : Option String} {text : String} :
    nonEmpty? given = some text ↔ given = some text ∧ text ≠ "" := by
  rw [nonEmpty?, Option.filter_eq_some_iff]
  simp

theorem nonEmpty?_eq_filter (given : Option String) : nonEmpty? given = given.filter (· ≠ "") := by
  ext text
  rw [nonEmpty?_eq_some_iff, Option.filter_eq_some_iff, decide_eq_true_eq]

theorem isSome_nonEmpty?_iff {given : Option String} :
    (nonEmpty? given).isSome = true ↔ ∃ text ∈ given, text ≠ "" := by
  simp only [Option.isSome_iff_exists, nonEmpty?_eq_some_iff, Option.mem_def]

/-- Left out or empty is the same, where nothing stands for the empty text. -/
theorem getD_nonEmpty? (given : Option String) : (nonEmpty? given).getD "" = given.getD "" := by
  cases given with
  | none => rfl
  | some text =>
    by_cases htext : text = ""
    · subst htext
      rfl
    · rw [nonEmpty?_eq_some_iff.mpr ⟨rfl, htext⟩]

/-! ## 2. Accessors -/

/-- The requirements of a Pod container; empty maps are left out. -/
def InitResources.requirements (r : InitResources) : Resources :=
  let given (d : Dict String) : Option (Dict String) := if d.isEmpty then none else some d
  { requests := given r.requests, limits := given r.limits }

namespace WorkloadConfig

/-- The API version of workload configs. -/
def apiVersion : String := "beacon.dev/v1alpha1"

/-- The kind of workload configs. -/
def kind : String := "WorkloadConfig"

/-- The name of the config. -/
def name (c : WorkloadConfig) : String := c.metadata.nameOrEmpty

/-- Host agent with application injection is on. -/
def isCloudNative (c : WorkloadConfig) : Bool := c.spec.oneAgent.cloudNativeFullStack.isSome

/-- Application-only monitoring is on. -/
def isApplicationMonitoring (c : WorkloadConfig) : Bool :=
  c.spec.oneAgent.applicationMonitoring.isSome

/-- Bound Pods are injected. -/
def injectsApplications (c : WorkloadConfig) : Bool := c.isCloudNative || c.isApplicationMonitoring

/-- Agent binaries come from the storage driver. -/
def usesDriver (c : WorkloadConfig) : Bool :=
  c.isCloudNative || (c.spec.oneAgent.applicationMonitoring.map (·.useCsiDriver)).getD false

/-- The install mode that goes with the source of the binaries. -/
def installMode (c : WorkloadConfig) : InstallMode :=
  if c.usesDriver then .provisioned else .installer

/-- Enrichment is off for all bound Pods. -/
def disablesEnrichment (c : WorkloadConfig) : Bool := c.spec.features.disableMetadataEnrichment

/-- Pods injected before are repaired. -/
def repairsPods (c : WorkloadConfig) : Bool := c.spec.features.enableWebhookReinvocationPolicy

/-- Agents have to trust a certificate of the gateway. -/
def hasGatewayTls (c : WorkloadConfig) : Bool :=
  (nonEmpty? (c.spec.activeGate.bind (·.tlsSecretName))).isSome

/-- The inline proxy, if it is not empty. -/
def inlineProxy? (c : WorkloadConfig) : Option String := nonEmpty? (c.spec.proxy.bind (·.value))

/-- The secret that holds the proxy, if its name is not empty. -/
def proxySecret? (c : WorkloadConfig) : Option String := nonEmpty? (c.spec.proxy.bind (·.valueFrom))

/-- A proxy is configured. -/
def hasProxy (c : WorkloadConfig) : Bool := c.inlineProxy?.isSome || c.proxySecret?.isSome

/-- The network zone, if it is not empty. -/
def networkZone? (c : WorkloadConfig) : Option String := nonEmpty? c.spec.networkZone

/-- The secret that holds the API tokens. -/
def tokensSecret (c : WorkloadConfig) : String := c.spec.tokens.getD c.name

/-- Resources of the install container. -/
def initResources? (c : WorkloadConfig) : Option Resources :=
  let mode := c.spec.oneAgent
  (mode.cloudNativeFullStack.bind (·.initResources) <|>
    mode.applicationMonitoring.bind (·.initResources)).map (·.requirements)

/-- Image of the install container, if it is not empty. -/
def initImage? (c : WorkloadConfig) : Option String :=
  let mode := c.spec.oneAgent
  nonEmpty? (mode.cloudNativeFullStack.bind (·.initImage) <|>
    mode.applicationMonitoring.bind (·.initImage))

/-- Warnings for modes that are still in preview. -/
def previewWarnings (c : WorkloadConfig) : List String :=
  if c.isCloudNative then ["cloudNativeFullStack feature is in PREVIEW."]
  else if c.isApplicationMonitoring && c.usesDriver then
    ["applicationMonitoring feature is in PREVIEW."]
  else []

/-! ## 3. What the accessors look at -/

/-- The config asks for injections: by host monitoring with application injection, or by
application-only monitoring. -/
def AsksForInjection (c : WorkloadConfig) : Prop :=
  c.spec.oneAgent.cloudNativeFullStack.isSome = true ∨
    c.spec.oneAgent.applicationMonitoring.isSome = true

instance (c : WorkloadConfig) : Decidable c.AsksForInjection :=
  inferInstanceAs (Decidable (_ ∨ _))

theorem injectsApplications_iff {c : WorkloadConfig} :
    c.injectsApplications = true ↔ c.AsksForInjection :=
  Bool.or_eq_true_iff

/-- The config asks for the storage driver: the host agent always does, application-only monitoring
by a switch. -/
def AsksForDriver (c : WorkloadConfig) : Prop :=
  c.spec.oneAgent.cloudNativeFullStack.isSome = true ∨
    ∃ mode ∈ c.spec.oneAgent.applicationMonitoring, mode.useCsiDriver = true

instance (c : WorkloadConfig) : Decidable c.AsksForDriver :=
  inferInstanceAs (Decidable (c.spec.oneAgent.cloudNativeFullStack.isSome = true ∨
    ∃ mode ∈ c.spec.oneAgent.applicationMonitoring, mode.useCsiDriver = true))

theorem usesDriver_iff {c : WorkloadConfig} : c.usesDriver = true ↔ c.AsksForDriver := by
  rw [usesDriver, Bool.or_eq_true, isCloudNative, AsksForDriver]
  cases c.spec.oneAgent.applicationMonitoring <;> simp

/-- The config names the certificate of a gateway. -/
def GivesGatewayTls (c : WorkloadConfig) : Prop :=
  ∃ gate ∈ c.spec.activeGate, ∃ name ∈ gate.tlsSecretName, name ≠ ""

instance (c : WorkloadConfig) : Decidable c.GivesGatewayTls :=
  inferInstanceAs (Decidable (∃ gate ∈ c.spec.activeGate, ∃ name ∈ gate.tlsSecretName, name ≠ ""))

theorem hasGatewayTls_iff {c : WorkloadConfig} : c.hasGatewayTls = true ↔ c.GivesGatewayTls := by
  rw [hasGatewayTls, isSome_nonEmpty?_iff, GivesGatewayTls]
  cases c.spec.activeGate <;> simp

/-- The config gives a proxy, inline or by the name of a secret, and what it gives is not empty. -/
def GivesProxy (c : WorkloadConfig) : Prop :=
  ∃ proxy ∈ c.spec.proxy,
    (∃ value ∈ proxy.value, value ≠ "") ∨ ∃ name ∈ proxy.valueFrom, name ≠ ""

instance (c : WorkloadConfig) : Decidable c.GivesProxy :=
  inferInstanceAs (Decidable (∃ proxy ∈ c.spec.proxy,
    (∃ value ∈ proxy.value, value ≠ "") ∨ ∃ name ∈ proxy.valueFrom, name ≠ ""))

theorem hasProxy_iff {c : WorkloadConfig} : c.hasProxy = true ↔ c.GivesProxy := by
  rw [hasProxy, Bool.or_eq_true, inlineProxy?, proxySecret?, isSome_nonEmpty?_iff,
    isSome_nonEmpty?_iff, GivesProxy]
  cases c.spec.proxy <;> simp

theorem isSome_networkZone?_iff {c : WorkloadConfig} :
    c.networkZone?.isSome = true ↔ ∃ zone ∈ c.spec.networkZone, zone ≠ "" :=
  isSome_nonEmpty?_iff

end WorkloadConfig

end InjectionWebhook
