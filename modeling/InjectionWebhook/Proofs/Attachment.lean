/-
# What an attachment adds

Attaching never takes anything away: a container keeps all it has, and what it is given stands
behind that.  `Attachment.newVars` and `Attachment.newMounts` name what is added; `envVars_attach`
and `mounts_attach` say that nothing else is.

The two marks by which a container is recognised later follow from that: a container carries the
agent after attaching if it did before or was given it (`hasAgent_attach`), and the same holds of
enrichment (`hasEnrichment_attach`).
-/
import InjectionWebhook.Injection.Attachment

namespace InjectionWebhook

/-! ## 1. What is added -/

namespace AgentAttachment

/-- The proxy and the network zone are variables of the agent where the config gives them. -/
theorem vars_eq (a : AgentAttachment) :
    a.vars = [.plain preloadEnv (a.installPath ++ "/" ++ preloadLibrary)] ++
      (if a.config.GivesProxy then [proxyVar] else []) ++
      (a.config.spec.networkZone.filter (· ≠ "")).toList.map (.plain networkZoneEnv) := by
  rw [vars, WorkloadConfig.networkZone?, nonEmpty?_eq_filter]
  simp only [WorkloadConfig.hasProxy_iff]
  cases a.config.spec.networkZone.filter (· ≠ "") <;> rfl

/-- Certificates are mounted where the config gives some of a gateway. -/
theorem mounts_eq (a : AgentAttachment) (name : String) :
    a.mounts name =
      [ { name := Volume.shareName, mountPath := preloadListPath, subPath := some "ld.so.preload" },
        { name := Volume.binariesName, mountPath := a.installPath },
        { name := Volume.shareName, mountPath := containerConfPath
          subPath := some ("container_" ++ name ++ ".conf") } ] ++
      (if a.config.GivesGatewayTls then
        [{ name := Volume.shareName, mountPath := customKeyPath, subPath := some "custom.pem" }]
      else []) := by
  rw [mounts]
  simp only [WorkloadConfig.hasGatewayTls_iff]

end AgentAttachment

namespace Attachment

/-- The deployment metadata, where a container is given something and has none yet. -/
def metadataVars (a : Attachment) (c : Container) : List EnvVar :=
  if a.isEmpty || c.hasEnv metadataEnv then [] else [.plain metadataEnv a.metadata]

/-- The variables of the capabilities an attachment holds. -/
def capabilityVars (a : Attachment) : List EnvVar :=
  a.agent.elim [] AgentAttachment.vars ++ a.enrichment.elim [] EnrichmentAttachment.vars

/-- The variables a container is given. -/
def newVars (a : Attachment) (c : Container) : List EnvVar := a.metadataVars c ++ a.capabilityVars

/-- The mounts a container with a name is given. -/
def newMounts (a : Attachment) (containerName : String) : List VolumeMount :=
  a.agent.elim [] (fun agent => agent.mounts containerName) ++
    a.enrichment.elim [] (fun _ => EnrichmentAttachment.mounts)

/-- An empty attachment leaves a container as it is. -/
theorem attach_of_isEmpty {a : Attachment} (h : a.isEmpty = true) (c : Container) :
    a.attach c = c := by
  obtain ⟨metadata, agent, enrichment⟩ := a
  cases agent <;> cases enrichment <;> simp_all [isEmpty, attach, attachMetadata]

/-- **What is added stands behind what is there**, in the variables and in the mounts, and nothing
else of the container changes. -/
theorem attach_of_not_isEmpty {a : Attachment} (h : a.isEmpty = false) (c : Container) :
    a.attach c = (c.appendMounts (a.newMounts c.name)).appendEnv (a.newVars c) := by
  obtain ⟨metadata, agent, enrichment⟩ := a
  cases hm : c.hasEnv metadataEnv <;> cases agent <;> cases enrichment <;>
    simp_all [isEmpty, attach, attachMetadata, newVars, newMounts, metadataVars, capabilityVars,
      AgentAttachment.attach, EnrichmentAttachment.attach, Container.appendEnv,
      Container.appendMounts, Container.envVars, Container.mounts]

theorem newVars_of_isEmpty {a : Attachment} (h : a.isEmpty = true) (c : Container) :
    a.newVars c = [] := by
  obtain ⟨metadata, agent, enrichment⟩ := a
  cases agent <;> cases enrichment <;> simp_all [isEmpty, newVars, metadataVars, capabilityVars]

theorem newMounts_of_isEmpty {a : Attachment} (h : a.isEmpty = true) (name : String) :
    a.newMounts name = [] := by
  obtain ⟨metadata, agent, enrichment⟩ := a
  cases agent <;> cases enrichment <;> simp_all [isEmpty, newMounts]

@[simp] theorem envVars_attach (a : Attachment) (c : Container) :
    (a.attach c).envVars = c.envVars ++ a.newVars c := by
  cases h : a.isEmpty with
  | true => rw [attach_of_isEmpty h, newVars_of_isEmpty h, List.append_nil]
  | false => rw [attach_of_not_isEmpty h]; rfl

@[simp] theorem mounts_attach (a : Attachment) (c : Container) :
    (a.attach c).mounts = c.mounts ++ a.newMounts c.name := by
  cases h : a.isEmpty with
  | true => rw [attach_of_isEmpty h, newMounts_of_isEmpty h, List.append_nil]
  | false => rw [attach_of_not_isEmpty h]; rfl

@[simp] theorem name_attach (a : Attachment) (c : Container) : (a.attach c).name = c.name := by
  cases h : a.isEmpty with
  | true => rw [attach_of_isEmpty h]
  | false => rw [attach_of_not_isEmpty h]; rfl

@[simp] theorem image_attach (a : Attachment) (c : Container) : (a.attach c).image = c.image := by
  cases h : a.isEmpty with
  | true => rw [attach_of_isEmpty h]
  | false => rw [attach_of_not_isEmpty h]; rfl

/-! ## 3. What a container is recognised by -/

/-- The variables of the agent hold the one that preloads it. -/
theorem any_preloadEnv_vars (agent : AgentAttachment) :
    agent.vars.any (fun e => decide (e.name = preloadEnv)) = true := by
  simp [AgentAttachment.vars, EnvVar.plain]

/-- The variables of enrichment preload nothing. -/
theorem any_preloadEnv_enrichmentVars (e : EnrichmentAttachment) :
    e.vars.any (fun v => decide (v.name = preloadEnv)) = false := by
  simp [EnrichmentAttachment.vars, EnvVar.plain, workloadKindEnv, workloadNameEnv, ingestUrlKey,
    ingestTokenKey, preloadEnv]

theorem any_preloadEnv_metadataVars (a : Attachment) (c : Container) :
    (a.metadataVars c).any (fun e => decide (e.name = preloadEnv)) = false := by
  unfold metadataVars
  split
  · rfl
  · simp [EnvVar.plain, metadataEnv, preloadEnv]

/-- **A container carries the agent** if it did before or was given it. -/
@[simp] theorem hasAgent_attach (a : Attachment) (c : Container) :
    (a.attach c).hasAgent = (c.hasAgent || a.agent.isSome) := by
  have hagent : a.capabilityVars.any (fun e => decide (e.name = preloadEnv)) = a.agent.isSome := by
    obtain ⟨metadata, agent, enrichment⟩ := a
    cases agent <;> cases enrichment <;>
      simp [capabilityVars, any_preloadEnv_vars, any_preloadEnv_enrichmentVars, -List.any_eq_false,
        -List.any_eq_true]
  simp only [Container.hasAgent, Container.hasEnv_eq_any, envVars_attach, newVars, List.any_append,
    any_preloadEnv_metadataVars, hagent, Bool.false_or]

/-- The mounts of the agent leave the endpoint alone. -/
theorem any_endpointName_mounts (agent : AgentAttachment) (name : String) :
    (agent.mounts name).any (fun m => decide (m.name = Volume.endpointName)) = false := by
  unfold AgentAttachment.mounts
  split <;> simp [Volume.shareName, Volume.binariesName, Volume.endpointName]

/-- **A container carries enrichment** if it did before or was given it. -/
@[simp] theorem hasEnrichment_attach (a : Attachment) (c : Container) :
    (a.attach c).hasEnrichment = (c.hasEnrichment || a.enrichment.isSome) := by
  have hmounts : (a.newMounts c.name).any (fun m => decide (m.name = Volume.endpointName)) =
      a.enrichment.isSome := by
    obtain ⟨metadata, agent, enrichment⟩ := a
    cases agent <;> cases enrichment <;>
      simp [newMounts, any_endpointName_mounts, EnrichmentAttachment.mounts, -List.any_eq_false,
        -List.any_eq_true]
  simp only [Container.hasEnrichment, mounts_attach, List.any_append, hmounts]

/-! ## 4. Narrowed attachments -/

@[simp] theorem agent_only (a : Attachment) (agent enrichment : Bool) :
    (a.only agent enrichment).agent = if agent then a.agent else none := by
  cases agent <;> cases h : a.agent <;> simp [only, h]

@[simp] theorem enrichment_only (a : Attachment) (agent enrichment : Bool) :
    (a.only agent enrichment).enrichment = if enrichment then a.enrichment else none := by
  cases enrichment <;> cases h : a.enrichment <;> simp [only, h]

end Attachment

end InjectionWebhook
