/-
# Volumes of an injected Pod

Five volume names are reserved.  They are used to build an injection and to recognise one later, so
no other part of a Pod is expected to use them.
-/
import InjectionWebhook.Kubernetes.Volume
import InjectionWebhook.WorkloadConfig

namespace InjectionWebhook

/-! ## 1. Names of secrets and volumes -/

/-- The secret with the install script and its configuration, in every namespace. -/
def initSecretName : String := "beacon-injection-config"

/-- The secret with the metrics endpoint, in every namespace. -/
def endpointSecretName : String := "beacon-data-ingest-endpoint"

/-- The storage driver used where none is named. -/
def defaultDriver : String := "csi.beacon.dev"

namespace Volume

/-- The volume with the install script and its configuration. -/
def configName : String := "injection-config"

/-- The volume with the agent binaries. -/
def binariesName : String := "oneagent-bin"

/-- The volume with the agent state that the containers of a Pod share. -/
def shareName : String := "oneagent-share"

/-- The volume the install container writes enrichment files to. -/
def enrichmentName : String := "data-ingest-enrichment"

/-- The volume with the metrics endpoint. -/
def endpointName : String := "data-ingest-endpoint"

/-- The volume names an injection uses. -/
def reserved : List String := [configName, binariesName, shareName, enrichmentName, endpointName]

/-! ## 2. The volumes -/

/-- Install script and configuration. -/
def config : Volume := ofSecret configName initSecretName

/-- Agent binaries: published by the driver if the config asks for it, else a directory to download
them to. -/
def binaries (driver : String) (config : WorkloadConfig) : Volume :=
  if config.usesDriver then
    { name := binariesName
      csi := some
        { driver
          attributes := some (.ofList [("mode", "app"), ("workloadConfig", config.name)]) } }
  else scratch binariesName

/-- What the agent needs. -/
def forAgent (driver : String) (config : WorkloadConfig) : List Volume :=
  [binaries driver config, scratch shareName]

/-- Where the config asks for the driver, the binaries come from there. -/
theorem forAgent_eq (driver : String) (config : WorkloadConfig) :
    forAgent driver config =
      [ if config.AsksForDriver then
          { name := "oneagent-bin"
            csi := some
              { driver
                attributes := some (.ofList
                  [("mode", "app"), ("workloadConfig", config.metadata.name.getD "")]) } }
        else { name := "oneagent-bin", emptyDir := some {} },
        { name := "oneagent-share", emptyDir := some {} } ] := by
  rw [forAgent, binaries]
  simp only [WorkloadConfig.usesDriver_iff]
  rfl

/-- What enrichment needs. -/
def forEnrichment : List Volume :=
  [scratch enrichmentName, ofSecret endpointName endpointSecretName]

end Volume

end InjectionWebhook
