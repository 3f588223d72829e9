/-
# Attaching to a container

An `Attachment` is what one application container is to be given: the deployment metadata, the
agent, the enrichment.  `Attachment.attach` gives it to a container in that order; what is not in
the attachment leaves the container as it is.

* `Container.hasAgent` and `Container.hasEnrichment` recognise what a container was given before;
* `Attachment.only` narrows an attachment to what a container lacks.
-/
import InjectionWebhook.Capability
import InjectionWebhook.Injection.Volumes

namespace InjectionWebhook

/-! ## 1. Workloads, endpoints and deployment metadata -/

/-- The workload a Pod belongs to; a Pod on its own has no kind. -/
structure Workload where
  kind : String := ""
  name : String := ""
deriving DecidableEq

/-- Variable with the URL of the metrics endpoint, also its key in the endpoint fields. -/
def ingestUrlKey : String := "BEACON_METRICS_INGEST_URL"

/-- Variable with the token of the metrics endpoint, also its key in the endpoint fields. -/
def ingestTokenKey : String := "BEACON_METRICS_INGEST_API_TOKEN"

/-- What enriched containers are told about the metrics endpoint. -/
abbrev EndpointFields := Dict String

/-- The version that deployment metadata carries. -/
def scriptVersion : String := "0.1.0"

/-- How the agent was deployed, for the books of the backend. -/
def deploymentMetadata (config : WorkloadConfig) (clusterId : String) : String :=
  let technology :=
    if config.isCloudNative then "Operator-cloud_native_fullstack"
    else "Operator-application_monitoring"
  "orchestration_tech=" ++ technology ++ ";script_version=" ++ scriptVersion ++
    ";orchestrator_id=" ++ clusterId

/-! ## 2. Variables and paths -/

/-- Variable with the deployment metadata. -/
def metadataEnv : String := "BEACON_DEPLOYMENT_METADATA"

/-- Variable that preloads the agent; a container with it carries the agent. -/
def preloadEnv : String := "LD_PRELOAD"

/-- Variable with the proxy. -/
def proxyEnv : String := "BEACON_PROXY"

/-- Variable with the network zone. -/
def networkZoneEnv : String := "BEACON_NETWORK_ZONE"

/-- Variable with the kind of the workload. -/
def workloadKindEnv : String := "BEACON_WORKLOAD_KIND"

/-- Variable with the name of the workload. -/
def workloadNameEnv : String := "BEACON_WORKLOAD_NAME"

/-- Key of the proxy in the injection config secret. -/
def proxyKey : String := "proxy"

/-- The library that is preloaded, below the install path. -/
def preloadLibrary : String := "agent/lib64/liboneagentproc.so"

/-- Where the loader looks for libraries to preload. -/
def preloadListPath : String := "/etc/ld.so.preload"

/-- Where the agent looks for the configuration of its container. -/
def containerConfPath : String := "/var/lib/beacon/oneagent/agent/config/container.conf"

/-- Where the agent looks for certificates to trust. -/
def customKeyPath : String := "/var/lib/beacon/oneagent/agent/customkeys/custom.pem"

/-- Where enrichment files are found. -/
def enrichmentPath : String := "/var/lib/beacon/enrichment"

/-- Where the endpoint file is found. -/
def endpointPath : String := "/var/lib/beacon/enrichment/endpoint"

/-! ## 3. Attachments -/

/-- What the agent of a container depends on. -/
structure AgentAttachment where
  config : WorkloadConfig
  installPath : String
deriving DecidableEq

/-- What the enrichment of a container depends on. -/
structure EnrichmentAttachment where
  workload : Workload
  fields : EndpointFields
deriving DecidableEq

/-- What a container is to be given. -/
structure Attachment where
  metadata : String
  agent : Option AgentAttachment := none
  enrichment : Option EnrichmentAttachment := none
deriving DecidableEq

namespace Container

/-- The container carries the agent. -/
def hasAgent (c : Container) : Bool := c.hasEnv preloadEnv

/-- The container carries enrichment. -/
def hasEnrichment (c : Container) : Bool := c.mounts.any (·.name = Volume.endpointName)

end Container

namespace Attachment

/-- The attachment gives nothing. -/
def isEmpty (a : Attachment) : Bool := a.agent.isNone && a.enrichment.isNone

/-- The attachment without the parts that are not wanted. -/
def only (a : Attachment) (agent enrichment : Bool) : Attachment :=
  { a with
    agent := a.agent.filter fun _ => agent
    enrichment := a.enrichment.filter fun _ => enrichment }

/-- Adds the deployment metadata, unless the container has some or is given nothing else. -/
def attachMetadata (a : Attachment) (c : Container) : Container :=
  if a.isEmpty || c.hasEnv metadataEnv then c
  else c.appendEnv [.plain metadataEnv a.metadata]

end Attachment

namespace AgentAttachment

/-- The mounts of the agent in a container with a name. -/
def mounts (a : AgentAttachment) (containerName : String) : List VolumeMount :=
  [ { name := Volume.shareName, mountPath := preloadListPath, subPath := some "ld.so.preload" },
    { name := Volume.binariesName, mountPath := a.installPath },
    { name := Volume.shareName, mountPath := containerConfPath
      subPath := some ("container_" ++ containerName ++ ".conf") } ] ++
  (if a.config.hasGatewayTls then
    [{ name := Volume.shareName, mountPath := customKeyPath, subPath := some "custom.pem" }]
  else [])

/-- The proxy variable takes its value from the injection config secret. -/
def proxyVar : EnvVar :=
  { name := proxyEnv
    source := some { secretKey := some { name := initSecretName, key := proxyKey } } }

/-- The variables of the agent. -/
def vars (a : AgentAttachment) : List EnvVar :=
  [.plain preloadEnv (a.installPath ++ "/" ++ preloadLibrary)] ++
  (if a.config.hasProxy then [proxyVar] else []) ++
  (match a.config.networkZone? with
    | some zone => [.plain networkZoneEnv zone]
    | none => [])

/-- Gives the agent to a container. -/
def attach (a : AgentAttachment) (c : Container) : Container :=
  (c.appendMounts (a.mounts c.name)).appendEnv a.vars

end AgentAttachment

namespace EnrichmentAttachment

/-- The mounts of enrichment. -/
def mounts : List VolumeMount :=
  [ { name := Volume.enrichmentName, mountPath := enrichmentPath },
    { name := Volume.endpointName, mountPath := endpointPath } ]

/-- The variables of enrichment. -/
def vars (e : EnrichmentAttachment) : List EnvVar :=
  [ .plain workloadKindEnv e.workload.kind, .plain workloadNameEnv e.workload.name,
    .plain ingestUrlKey (e.fields.textOr ingestUrlKey ""),
    .plain ingestTokenKey (e.fields.textOr ingestTokenKey "") ]

/-- Gives enrichment to a container. -/
def attach (e : EnrichmentAttachment) (c : Container) : Container :=
  (c.appendMounts mounts).appendEnv e.vars

end EnrichmentAttachment

namespace Attachment

/-- Gives a container the metadata, then the agent, then enrichment. -/
def attach (a : Attachment) (c : Container) : Container :=
  let c := a.attachMetadata c
  let c := match a.agent with
    | some agent => agent.attach c
    | none => c
  match a.enrichment with
  | some enrichment => enrichment.attach c
  | none => c

end Attachment

end InjectionWebhook
