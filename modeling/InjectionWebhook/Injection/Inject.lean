/-
# Injecting a Pod

An `Injection` gathers everything one admission found out.  `Injection.inject` turns a Pod without
marker into the injected one: volumes are added, every application container is given the
attachment, the install container joins the init containers, and the annotations record what was
done.

Enrichment takes part only where both the workload and the endpoint are known.
-/
import InjectionWebhook.Injection.InstallContainer

namespace InjectionWebhook

/-- Everything an injection depends on. -/
structure Injection where
  config : WorkloadConfig
  features : Features
  settings : InstallSettings
  /-- The storage driver that publishes agent binaries. -/
  driver : String
  /-- The deployment metadata, as written into containers. -/
  metadata : String
  workload : Option Workload := none
  endpoint : Option EndpointFields := none

namespace Injection

/-- What every application container is to be given. -/
def attachment (i : Injection) : Attachment :=
  { metadata := i.metadata
    agent :=
      if i.features.oneAgent then
        some { config := i.config, installPath := i.settings.installPath }
      else none
    enrichment :=
      match i.workload, i.endpoint with
      | some workload, some fields =>
        if i.features.dataIngest then some { workload, fields } else none
      | _, _ => none }

/-- The volumes that an attachment needs. -/
def volumes (i : Injection) (a : Attachment) : List Volume :=
  [Volume.config] ++
  (if a.agent.isSome then Volume.forAgent i.driver i.config else []) ++
  (if a.enrichment.isSome then Volume.forEnrichment else [])

/-- The entries of the containers from a position on, whether they carry the agent or not. -/
def allEntriesFrom (position : Nat) : List Container → List EnvVar
  | [] => []
  | c :: rest => InstallContainer.entry position c ++ allEntriesFrom (position + 1) rest

/-- The install container for a Pod, with an entry for every application container if the agent
takes part. -/
def installContainer (i : Injection) (a : Attachment) (pod : Pod) : Container :=
  let bare :=
    InstallContainer.build pod i.settings i.config i.features (a.enrichment.map (·.workload))
  if a.agent.isSome then bare.appendEnv (allEntriesFrom 1 pod.containers) else bare

/-- The injected Pod. -/
def inject (i : Injection) (pod : Pod) : Pod :=
  let a := i.attachment
  let spec := pod.spec.getD {}
  { pod with
    metadata :=
      { pod.metadata with
        annotations := some (pod.metadata.annotationMap.extend i.features.records) }
    spec := some
      { spec with
        volumes := some (spec.volumes.getD [] ++ i.volumes a)
        containers := spec.containers.map a.attach
        initContainers := some (spec.initContainers.getD [] ++ [i.installContainer a pod]) } }

end Injection

end InjectionWebhook
