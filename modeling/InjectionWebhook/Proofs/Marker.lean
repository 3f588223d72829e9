/-
# What the marker of an injection says

A capability comes with a kit (`Injection.kit`): its volumes, what the install container is given for
it, and what every application container is given.  Five places of an injection decide whether a
capability takes part, each on its own: the attachment, the volumes, the install container, its
entries, and the annotations.  This file shows that they agree with the switches of the Pod, so that
the marker tells the truth: a capability it lists is set up with its whole kit (`SetUp`), and of one
it does not list nothing is there (`LeftOut`).

* `Injection.selected` puts the kits of the enabled capabilities together; `volumes_eq_selected`,
  `newMounts_eq_selected`, `newVars_eq_selected` and `mem_envVars_install` say that an injection adds
  just that;
* `Injection.tells_inject` is the statement about one injection, `Admission.tells_of_patched` the one
  about an admission.
-/
import InjectionWebhook.Proofs.Backing
import Mathlib.Data.List.Forall2

namespace InjectionWebhook

/-! ## 1. Kits -/

/-- The variable that tells the install container whether a capability is set up. -/
def Capability.flagEnv : Capability → String
  | .oneAgent => "ONEAGENT_INJECTED"
  | .dataIngest => "DATA_INGEST_INJECTED"

/-- What comes with a capability. -/
structure Kit where
  volumes : List Volume
  /-- The variables of the install container, the flag of the capability apart. -/
  installVars : List EnvVar
  installMounts : List VolumeMount
  /-- The variables of every application container. -/
  vars : List EnvVar
  /-- The mounts of the application container with a name. -/
  mounts : String → List VolumeMount

namespace Injection

/-- The agent of an injection. -/
def agentPart (i : Injection) : AgentAttachment :=
  { config := i.config, installPath := i.settings.installPath }

/-- The enrichment of an injection; an unknown workload or endpoint is empty. -/
def enrichmentPart (i : Injection) : EnrichmentAttachment :=
  { workload := i.workload.getD {}, fields := i.endpoint.getD .empty }

/-- What comes with each capability in an injection of a Pod. -/
def kit (i : Injection) (pod : Pod) : Capability → Kit
  | .oneAgent =>
    { volumes :=
        [ if i.config.AsksForDriver then
            { name := "oneagent-bin"
              csi := some
                { driver := i.driver
                  attributes := some (.ofList
                    [("mode", "app"), ("workloadConfig", i.config.metadata.name.getD "")]) } }
          else { name := "oneagent-bin", emptyDir := some {} },
          { name := "oneagent-share", emptyDir := some {} } ]
      installVars :=
        [ .plain "FLAVOR" "multidistro", .plain "TECHNOLOGIES" i.settings.technologies,
          .plain "INSTALLPATH" i.settings.installPath,
          .plain "INSTALLER_URL" i.settings.installerUrl,
          .plain "MODE" (if i.config.AsksForDriver then "provisioned" else "installer") ] ++
        (pod.containers.zipIdx 1).flatMap fun (c, n) =>
          [ .plain ("CONTAINER_" ++ toString n ++ "_NAME") c.name,
            .plain ("CONTAINER_" ++ toString n ++ "_IMAGE") (c.image.getD "") ]
      installMounts :=
        [ { name := "oneagent-bin", mountPath := "/mnt/bin" },
          { name := "oneagent-share", mountPath := "/mnt/share" } ]
      vars :=
        [.plain "LD_PRELOAD" (i.settings.installPath ++ "/" ++ "agent/lib64/liboneagentproc.so")] ++
        (if i.config.GivesProxy then
          [ { name := "BEACON_PROXY"
              source := some
                { secretKey := some { name := "beacon-injection-config", key := "proxy" } } } ]
        else []) ++
        (i.config.spec.networkZone.filter (· ≠ "")).toList.map (.plain "BEACON_NETWORK_ZONE")
      mounts := fun name =>
        [ { name := "oneagent-share", mountPath := "/etc/ld.so.preload"
            subPath := some "ld.so.preload" },
          { name := "oneagent-bin", mountPath := i.settings.installPath },
          { name := "oneagent-share"
            mountPath := "/var/lib/beacon/oneagent/agent/config/container.conf"
            subPath := some ("container_" ++ name ++ ".conf") } ] ++
        if i.config.GivesGatewayTls then
          [ { name := "oneagent-share"
              mountPath := "/var/lib/beacon/oneagent/agent/customkeys/custom.pem"
              subPath := some "custom.pem" } ]
        else [] }
  | .dataIngest =>
    let workload := i.workload.getD {}
    let endpoint := i.endpoint.getD .empty
    { volumes := [{ name := "data-ingest-enrichment", emptyDir := some {} },
        .ofSecret "data-ingest-endpoint" "beacon-data-ingest-endpoint"]
      installVars :=
        [.plain "BEACON_WORKLOAD_KIND" workload.kind, .plain "BEACON_WORKLOAD_NAME" workload.name]
      installMounts := [{ name := "data-ingest-enrichment", mountPath := "/mnt/enrichment" }]
      vars :=
        [ .plain "BEACON_WORKLOAD_KIND" workload.kind, .plain "BEACON_WORKLOAD_NAME" workload.name,
          .plain "BEACON_METRICS_INGEST_URL"
            ((endpoint.get? "BEACON_METRICS_INGEST_URL").getD ""),
          .plain "BEACON_METRICS_INGEST_API_TOKEN"
            ((endpoint.get? "BEACON_METRICS_INGEST_API_TOKEN").getD "") ]
      mounts := fun _ =>
        [ { name := "data-ingest-enrichment", mountPath := "/var/lib/beacon/enrichment" },
          { name := "data-ingest-endpoint", mountPath := "/var/lib/beacon/enrichment/endpoint" } ] }

section Parts

variable (i : Injection) (pod : Pod)

/-- The volumes of the agent are those that a kit has for it. -/
theorem volumes_kit_oneAgent :
    (i.kit pod .oneAgent).volumes = Volume.forAgent i.driver i.config :=
  (Volume.forAgent_eq i.driver i.config).symm

/-- So are the variables that the install container is told of the agent, -/
theorem installVars_kit_oneAgent :
    (i.kit pod .oneAgent).installVars =
      (InstallContainer.agentVars i.settings i.config true).dropLast ++
        allEntriesFrom 1 pod.containers := by
  have hmode : i.config.installMode.word =
      if i.config.AsksForDriver then "provisioned" else "installer" := by
    rw [WorkloadConfig.installMode]
    by_cases h : i.config.AsksForDriver
    · rw [if_pos h, if_pos (WorkloadConfig.usesDriver_iff.mpr h)]
      rfl
    · rw [if_neg h, if_neg fun hdriver => h (WorkloadConfig.usesDriver_iff.mp hdriver)]
      rfl
  rw [kit, InstallContainer.allEntriesFrom_eq_flatMap, ← hmode]
  rfl

/-- the variables of every application container, -/
theorem vars_kit_oneAgent : (i.kit pod .oneAgent).vars = i.agentPart.vars := by
  rw [AgentAttachment.vars_eq]
  rfl

/-- and their mounts. -/
theorem mounts_kit_oneAgent : (i.kit pod .oneAgent).mounts = i.agentPart.mounts := by
  funext name
  rw [AgentAttachment.mounts_eq]
  rfl

end Parts

/-- The parts of the enabled capabilities, the agent first. -/
def selected {β : Type} (i : Injection) (part : Capability → List β) : List β :=
  [Capability.oneAgent, .dataIngest].flatMap fun c => if i.features.enables c then part c else []

section Selected

variable {i : Injection} {c : Capability} {β : Type} {part : Capability → List β} {x : β}

theorem selected_eq (i : Injection) (part : Capability → List β) :
    i.selected part =
      (if i.features.oneAgent then part .oneAgent else []) ++
        (if i.features.dataIngest then part .dataIngest else []) := by
  rw [selected, List.flatMap_cons, List.flatMap_cons, List.flatMap_nil, List.append_nil]
  rfl

theorem mem_selected :
    x ∈ i.selected part ↔ ∃ c, i.features.enables c = true ∧ x ∈ part c := by
  rw [selected, List.mem_flatMap]
  constructor
  · rintro ⟨c, -, hx⟩
    split at hx
    · exact ⟨c, ‹_›, hx⟩
    · exact absurd hx List.not_mem_nil
  · rintro ⟨c, hon, hx⟩
    refine ⟨c, by cases c <;> decide, ?_⟩
    rw [if_pos hon]
    exact hx

/-- What comes with an enabled capability is there as a whole, in its order. -/
theorem sublist_selected (part : Capability → List β) (on : i.features.enables c = true) :
    (part c).Sublist (i.selected part) := by
  rw [selected_eq]
  cases c with
  | oneAgent =>
    rw [if_pos (show i.features.oneAgent = true from on)]
    exact List.sublist_append_left _ _
  | dataIngest =>
    rw [if_pos (show i.features.dataIngest = true from on)]
    exact List.sublist_append_right _ _

/-- Of a capability that is off nothing is there, if one can tell to which capability a thing
belongs. -/
theorem not_belongs_of_selected {Belongs : Capability → β → Prop}
    (hbelongs : ∀ c, ∀ x ∈ part c, Belongs c x)
    (hapart : ∀ c d, c ≠ d → ∀ x, Belongs c x → ¬ Belongs d x)
    (off : i.features.enables c = false) (hx : x ∈ i.selected part) : ¬ Belongs c x := by
  obtain ⟨d, hon, hx⟩ := mem_selected.mp hx
  refine hapart d c ?_ x (hbelongs d x hx)
  rintro rfl
  rw [off] at hon
  exact absurd hon Bool.false_ne_true

end Selected

end Injection

/-! ## 2. Names -/

namespace Capability

/-- The names of the volumes of a capability. -/
def volumeNames : Capability → List String
  | .oneAgent => ["oneagent-bin", "oneagent-share"]
  | .dataIngest => ["data-ingest-enrichment", "data-ingest-endpoint"]

/-- The names of the variables that a capability brings to application containers. -/
def varNames : Capability → List String
  | .oneAgent => ["LD_PRELOAD", "BEACON_PROXY", "BEACON_NETWORK_ZONE"]
  | .dataIngest =>
    [ "BEACON_WORKLOAD_KIND", "BEACON_WORKLOAD_NAME", "BEACON_METRICS_INGEST_URL",
      "BEACON_METRICS_INGEST_API_TOKEN" ]

/-- The name is one of a variable that a capability brings to the install container. -/
def namesInstallVar : Capability → String → Bool
  | .oneAgent, name =>
    ["FLAVOR", "TECHNOLOGIES", "INSTALLPATH", "INSTALLER_URL", "MODE"].contains name ||
      InstallContainer.isEntryName name
  | .dataIngest, name => ["BEACON_WORKLOAD_KIND", "BEACON_WORKLOAD_NAME"].contains name

theorem volumeNames_apart (c d : Capability) (h : c ≠ d) :
    ∀ name ∈ c.volumeNames, name ∉ d.volumeNames := by
  cases c <;> cases d <;> first | exact absurd rfl h | decide

theorem namesInstallVar_apart (c d : Capability) (h : c ≠ d) (name : String)
    (hc : c.namesInstallVar name = true) : ¬ d.namesInstallVar name = true := by
  have hworkload : ∀ n ∈ ["BEACON_WORKLOAD_KIND", "BEACON_WORKLOAD_NAME"],
      Capability.oneAgent.namesInstallVar n = false := by decide
  intro hd
  cases c <;> cases d
  · exact absurd rfl h
  · rw [hworkload name (List.contains_iff_mem.mp hd)] at hc
    exact absurd hc Bool.false_ne_true
  · rw [hworkload name (List.contains_iff_mem.mp hc)] at hd
    exact absurd hd Bool.false_ne_true
  · exact absurd rfl h

theorem not_namesInstallVar_flagEnv (c d : Capability) : c.namesInstallVar d.flagEnv = false := by
  cases c <;> cases d <;> decide

theorem listedAs_inj {c d : Capability} (h : c.listedAs = d.listedAs) : c = d := by
  cases c <;> cases d <;> first | rfl | exact absurd h (by decide)

theorem varNames_apart (c d : Capability) (h : c ≠ d) : ∀ name ∈ c.varNames, name ∉ d.varNames := by
  cases c <;> cases d <;> first | exact absurd rfl h | decide

end Capability

namespace Injection

variable {i : Injection} {pod : Pod} {c : Capability}

theorem isEntryName_of_mem_allEntriesFrom {cs : List Container} {n : Nat} {e : EnvVar}
    (h : e ∈ allEntriesFrom n cs) : InstallContainer.isEntryName e.name = true := by
  cases hname : InstallContainer.isEntryName e.name with
  | true => rfl
  | false =>
    have hkept : e ∈ (allEntriesFrom n cs).filter fun e => !InstallContainer.isEntryName e.name :=
      List.mem_filter.mpr ⟨h, by rw [hname]; rfl⟩
    rw [InstallContainer.filter_allEntriesFrom] at hkept
    exact absurd hkept List.not_mem_nil

/-- A kit has two volumes. -/
theorem map_name_volumes_kit (i : Injection) (pod : Pod) (c : Capability) :
    (i.kit pod c).volumes.map (·.name) = c.volumeNames := by
  cases c with
  | oneAgent =>
    rw [volumes_kit_oneAgent, Volume.forAgent, Volume.binaries]
    split <;> rfl
  | dataIngest => rfl

theorem name_mem_of_mem_volumes (c : Capability) :
    ∀ v ∈ (i.kit pod c).volumes, v.name ∈ c.volumeNames := by
  intro v hv
  rw [← map_name_volumes_kit i pod]
  exact List.mem_map_of_mem hv

/-- What a kit mounts in application containers are its volumes. -/
theorem name_mem_of_mem_mounts {name : String} (c : Capability) :
    ∀ m ∈ (i.kit pod c).mounts name, m.name ∈ c.volumeNames := by
  intro m hm
  cases c with
  | oneAgent =>
    rw [mounts_kit_oneAgent] at hm
    rcases AgentAttachment.name_of_mem_mounts hm with h | h <;> rw [h] <;> decide
  | dataIngest => rcases EnrichmentAttachment.name_of_mem_mounts hm with h | h <;> rw [h] <;> decide

/-- So is what it mounts in the install container. -/
theorem name_mem_of_mem_installMounts (c : Capability) :
    ∀ m ∈ (i.kit pod c).installMounts, m.name ∈ c.volumeNames := by
  cases c with
  | oneAgent =>
    have hall : ∀ m ∈ [ ({ name := Volume.binariesName, mountPath := "/mnt/bin" } : VolumeMount),
        { name := Volume.shareName, mountPath := "/mnt/share" } ],
        m.name ∈ Capability.oneAgent.volumeNames := by decide
    exact hall
  | dataIngest =>
    have hall : ∀ m ∈ [ ({ name := Volume.enrichmentName, mountPath := "/mnt/enrichment" } :
        VolumeMount) ], m.name ∈ Capability.dataIngest.volumeNames := by decide
    exact hall

/-- The variables of a kit have its names. -/
theorem name_mem_of_mem_vars (c : Capability) :
    ∀ v ∈ (i.kit pod c).vars, v.name ∈ c.varNames := by
  intro v hv
  cases c with
  | oneAgent =>
    rw [vars_kit_oneAgent] at hv
    simp only [AgentAttachment.vars, List.mem_append] at hv
    rcases hv with (hv | hv) | hv
    · rw [List.mem_singleton.mp hv, EnvVar.name_plain]
      decide
    · split at hv
      · rw [List.mem_singleton.mp hv]
        decide
      · exact absurd hv List.not_mem_nil
    · split at hv
      · rw [List.mem_singleton.mp hv, EnvVar.name_plain]
        decide
      · exact absurd hv List.not_mem_nil
  | dataIngest =>
    simp only [kit, List.mem_cons, List.not_mem_nil, or_false] at hv
    rcases hv with rfl | rfl | rfl | rfl <;> rw [EnvVar.name_plain] <;> decide

/-- The variables that a kit has for the install container are known by their names. -/
theorem namesInstallVar_of_mem_installVars (c : Capability) :
    ∀ v ∈ (i.kit pod c).installVars, c.namesInstallVar v.name = true := by
  intro v hv
  cases c with
  | oneAgent =>
    rw [installVars_kit_oneAgent] at hv
    rcases List.mem_append.mp hv with hv | hv
    · simp only [InstallContainer.agentVars, if_true, List.dropLast, List.mem_cons, List.not_mem_nil,
        or_false] at hv
      rcases hv with rfl | rfl | rfl | rfl | rfl <;> rw [EnvVar.name_plain] <;> decide
    · rw [Capability.namesInstallVar, isEntryName_of_mem_allEntriesFrom hv, Bool.or_true]
  | dataIngest =>
    simp only [kit, List.mem_cons, List.not_mem_nil, or_false] at hv
    rcases hv with rfl | rfl <;> rw [EnvVar.name_plain] <;> decide

/-- What describes the Pod belongs to no kit. -/
theorem not_namesInstallVar_of_podVars {settings : InstallSettings} {v : EnvVar}
    (h : v ∈ InstallContainer.podVars pod settings) (c : Capability) :
    c.namesInstallVar v.name = false := by
  have hname : v.name ∈ (InstallContainer.podVars pod settings).map (·.name) :=
    List.mem_map_of_mem h
  have hall : ∀ name ∈ [InstallContainer.countEnv, "FAILURE_POLICY", "K8S_PODNAME", "K8S_PODUID",
      "K8S_BASEPODNAME", "K8S_NAMESPACE", "K8S_NODE_NAME"], c.namesInstallVar name = false := by
    cases c <;> decide
  exact hall v.name hname

/-- The deployment metadata belong to no kit. -/
theorem not_named_of_metadataVars {a : Attachment} {b : Container} {v : EnvVar}
    (h : v ∈ a.metadataVars b) (c : Capability) : v.name ∉ c.varNames := by
  rw [Attachment.metadataVars] at h
  split at h
  · exact absurd h List.not_mem_nil
  · rw [List.mem_singleton.mp h, EnvVar.name_plain]
    cases c <;> decide

/-! ## 3. What an injection adds -/

/-- Where enrichment is on, the workload and the endpoint are known. -/
structure Informed (i : Injection) : Prop where
  workload : i.features.dataIngest = true → i.workload.isSome = true
  endpoint : i.features.dataIngest = true → i.endpoint.isSome = true

/-- **The attachment holds the parts of the enabled capabilities.** -/
theorem attachment_of_informed (h : i.Informed) :
    i.attachment =
      { metadata := i.metadata
        agent := if i.features.oneAgent then some i.agentPart else none
        enrichment := if i.features.dataIngest then some i.enrichmentPart else none } := by
  cases hingest : i.features.dataIngest with
  | true =>
    obtain ⟨w, hw⟩ := Option.isSome_iff_exists.mp (h.workload hingest)
    obtain ⟨fields, hfields⟩ := Option.isSome_iff_exists.mp (h.endpoint hingest)
    simp [attachment, agentPart, enrichmentPart, hw, hfields, hingest]
  | false =>
    have hnone : i.attachment.enrichment = none := by
      cases henrichment : i.attachment.enrichment with
      | none => rfl
      | some e =>
        rw [dataIngest_of_enrichment henrichment] at hingest
        exact absurd hingest (by simp)
    rw [← hnone]
    rfl

/-- **The volumes**: install script and configuration, and those of the enabled capabilities. -/
theorem volumes_eq_selected (h : i.Informed) (pod : Pod) :
    i.volumes i.attachment = Volume.config :: i.selected fun c => (i.kit pod c).volumes := by
  rw [selected_eq, volumes_kit_oneAgent, attachment_of_informed h, volumes]
  cases i.features.oneAgent <;> cases i.features.dataIngest <;> rfl

/-- **The mounts of a container**: those of the enabled capabilities. -/
theorem newMounts_eq_selected (h : i.Informed) (pod : Pod) (name : String) :
    i.attachment.newMounts name = i.selected fun c => (i.kit pod c).mounts name := by
  rw [selected_eq, mounts_kit_oneAgent, attachment_of_informed h, Attachment.newMounts]
  cases i.features.oneAgent <;> cases i.features.dataIngest <;> rfl

/-- **The variables of a container**: the deployment metadata, and those of the enabled
capabilities. -/
theorem newVars_eq_selected (h : i.Informed) (pod : Pod) (b : Container) :
    i.attachment.newVars b =
      i.attachment.metadataVars b ++ i.selected fun c => (i.kit pod c).vars := by
  rw [Attachment.newVars]
  congr 1
  rw [selected_eq, vars_kit_oneAgent, attachment_of_informed h, Attachment.capabilityVars]
  cases i.features.oneAgent <;> cases i.features.dataIngest <;> rfl

/-- **The mounts of the install container**: the configuration, and those of the enabled
capabilities. -/
theorem installMounts_eq_selected (h : i.Informed) (pod : Pod) :
    (i.installContainer i.attachment pod).mounts =
      { name := Volume.configName, mountPath := "/mnt/config" } ::
        i.selected fun c => (i.kit pod c).installMounts := by
  rw [mounts_installContainer, selected_eq, attachment_of_informed h, InstallContainer.mounts]
  cases i.features.oneAgent <;> cases i.features.dataIngest <;> rfl

/-- What the install container is told of the agent: the flag, and the variables of the kit if the
agent is on. -/
theorem mem_agentLayer_iff (i : Injection) (pod : Pod) (v : EnvVar) :
    v ∈ InstallContainer.agentVars i.settings i.config i.features.oneAgent ∨
        v ∈ (if i.features.oneAgent then allEntriesFrom 1 pod.containers else []) ↔
      v = .plain InstallContainer.agentFlagEnv (Features.word i.features.oneAgent) ∨
        i.features.oneAgent = true ∧ v ∈ (i.kit pod .oneAgent).installVars := by
  rw [installVars_kit_oneAgent]
  cases i.features.oneAgent with
  | false => simp [InstallContainer.agentVars, Features.word]
  | true =>
    simp only [InstallContainer.agentVars, Features.word, if_true, List.dropLast, List.mem_append,
      List.mem_cons, List.not_mem_nil, or_false, true_and]
    tauto

/-- What it is told of enrichment is the like. -/
theorem mem_enrichmentLayer_iff (i : Injection) (pod : Pod) (v : EnvVar) :
    v ∈ InstallContainer.enrichmentVars
        (if i.features.dataIngest then some i.enrichmentPart.workload else none) ↔
      v = .plain InstallContainer.enrichmentFlagEnv (Features.word i.features.dataIngest) ∨
        i.features.dataIngest = true ∧ v ∈ (i.kit pod .dataIngest).installVars := by
  cases i.features.dataIngest with
  | false => simp [InstallContainer.enrichmentVars, Features.word]
  | true =>
    have hvars : (i.kit pod .dataIngest).installVars =
        [ .plain workloadKindEnv i.enrichmentPart.workload.kind,
          .plain workloadNameEnv i.enrichmentPart.workload.name ] := rfl
    simp only [hvars, InstallContainer.enrichmentVars, Features.word, if_true, List.mem_cons,
      List.not_mem_nil, or_false, true_and]
    tauto

/-- **The variables of the install container**: those that describe the Pod, a flag for each
capability, and those of the enabled capabilities. -/
theorem mem_envVars_install (h : i.Informed) (pod : Pod) (v : EnvVar) :
    v ∈ (i.installContainer i.attachment pod).envVars ↔
      v ∈ InstallContainer.podVars pod i.settings ∨
        (∃ c : Capability, v = .plain c.flagEnv (Features.word (i.features.enables c))) ∨
        v ∈ i.selected fun c => (i.kit pod c).installVars := by
  have hpod : InstallContainer.podVars pod i.settings =
      .plain InstallContainer.countEnv (toString pod.containers.length) ::
        (InstallContainer.podVars { metadata := pod.metadata } i.settings).tail := rfl
  have hflags : (∃ c : Capability, v = .plain c.flagEnv (Features.word (i.features.enables c))) ↔
      v = .plain InstallContainer.agentFlagEnv (Features.word i.features.oneAgent) ∨
        v = .plain InstallContainer.enrichmentFlagEnv (Features.word i.features.dataIngest) := by
    constructor
    · rintro ⟨c, hv⟩
      cases c with
      | oneAgent => exact .inl hv
      | dataIngest => exact .inr hv
    · rintro (hv | hv)
      · exact ⟨.oneAgent, hv⟩
      · exact ⟨.dataIngest, hv⟩
  have hselected : (v ∈ i.selected fun c => (i.kit pod c).installVars) ↔
      i.features.oneAgent = true ∧ v ∈ (i.kit pod .oneAgent).installVars ∨
        i.features.dataIngest = true ∧ v ∈ (i.kit pod .dataIngest).installVars := by
    rw [selected_eq, List.mem_append, List.mem_ite_nil_right, List.mem_ite_nil_right]
  have hworkload : (i.attachment.enrichment.map (·.workload)).filter
      (fun _ => i.features.dataIngest) =
        if i.features.dataIngest then some i.enrichmentPart.workload else none := by
    rw [attachment_of_informed h]
    cases i.features.dataIngest <;> rfl
  have hagent : i.attachment.agent.isSome = i.features.oneAgent := by
    rw [attachment_of_informed h]
    cases i.features.oneAgent <;> rfl
  rw [hflags, hselected, or_or_or_comm, ← mem_agentLayer_iff, ← mem_enrichmentLayer_iff, hpod,
    envVars_installContainer, fixedVars, freshEntries, hworkload, hagent]
  simp only [List.cons_append, List.mem_cons, List.mem_append, or_assoc]
  -- The entries stand behind the enrichment, but they belong to the agent.
  exact or_congr_right (or_congr_right (or_congr_right or_comm))

/-- **The flags of the install container** say which capabilities are on. -/
theorem valueOf_flagEnv (h : i.Informed) (pod : Pod) (c : Capability) :
    InstallContainer.valueOf (i.installContainer i.attachment pod) c.flagEnv =
      Features.word (i.features.enables c) := by
  cases c with
  | oneAgent => exact valueOf_agentFlag_installContainer i i.attachment pod
  | dataIngest =>
    rw [InstallContainer.valueOf, findEnv?_installContainer (by decide) (by decide),
      attachment_of_informed h]
    cases hagent : i.features.oneAgent <;> cases hingest : i.features.dataIngest <;>
      simp [fixedVars, hagent, hingest, InstallContainer.podVars, InstallContainer.agentVars,
        InstallContainer.enrichmentVars, EnvVar.plain, EnvVar.ofField, Features.word,
        Features.enables, Capability.flagEnv, InstallContainer.agentFlagEnv,
        InstallContainer.enrichmentFlagEnv, workloadKindEnv, workloadNameEnv, Option.filter]

end Injection

/-! ## 4. What the annotations record -/

/-- **An injection records of each capability whether it is on.** -/
theorem get?_record_records (d : Dict String) (f : Features) (c : Capability) :
    (d.extend f.records).get? c.record = some (Features.word (f.enables c)) := by
  rw [← Capability.recordKey_eq]
  have hrecords : f.records =
      [(markerKey, f.marker),
        (Capability.dataIngest.recordKey, Features.word (f.enables .dataIngest)),
        (Capability.oneAgent.recordKey, Features.word (f.enables .oneAgent))] := rfl
  have hkeys : Capability.dataIngest.recordKey ≠ Capability.oneAgent.recordKey := by decide
  rw [hrecords, Dict.extend_cons, Dict.extend_cons, Dict.extend_cons, Dict.extend_nil,
    Dict.get?_insert]
  cases c with
  | oneAgent => rw [if_pos rfl]
  | dataIngest => rw [if_neg hkeys, Dict.get?_insert, if_pos rfl]

/-- A marker is the tokens of some capabilities in their order, with commas between them. -/
structure IsMarker (marker : String) (tokens : List String) (on : Capability → Bool) : Prop where
  joined : marker = ",".intercalate tokens
  ascending : tokens.Pairwise (· < ·)
  mem_iff : ∀ token, token ∈ tokens ↔ ∃ c : Capability, token = c.listedAs ∧ on c = true

theorem isMarker_marker (f : Features) :
    IsMarker f.marker (f.enabled.map Capability.token) f.enables where
  joined := rfl
  ascending := by
    rw [List.pairwise_map]
    exact Capability.all_ascending.filter _
  mem_iff token := by
    rw [List.mem_map]
    constructor
    · rintro ⟨c, hc, rfl⟩
      exact ⟨c, rfl, (List.mem_filter.mp hc).2⟩
    · rintro ⟨c, rfl, hc⟩
      exact ⟨c, List.mem_filter.mpr ⟨Capability.mem_all c, hc⟩, rfl⟩

/-! ## 5. The marker tells the truth -/

/-- A container has been given variables and mounts, behind those it had. -/
structure Container.Given (before after : Container) (vars : List EnvVar)
    (mounts : List VolumeMount) : Prop where
  vars : after.envVars = before.envVars ++ vars
  mounts : after.mounts = before.mounts ++ mounts

/-- A capability is set up in a patched Pod: it is recorded, and its kit is there. -/
structure SetUp (i : Injection) (pod p : Pod) (install : Container) (tokens : List String)
    (c : Capability) : Prop where
  listed : c.listedAs ∈ tokens
  recorded : (p.metadata.annotations.getD .empty).get? c.record = some "true"
  flagged : InstallContainer.valueOf install c.flagEnv = "true"
  volumes : ∃ added, p.volumes = pod.volumes ++ added ∧ (i.kit pod c).volumes.Sublist added
  installVars : ∀ v ∈ (i.kit pod c).installVars, v ∈ install.envVars
  installMounts : (i.kit pod c).installMounts.Sublist install.mounts
  containers : List.Forall₂ (fun before after => ∃ vars mounts, before.Given after vars mounts ∧
    (i.kit pod c).vars.Sublist vars ∧ ((i.kit pod c).mounts before.name).Sublist mounts)
    pod.containers p.containers

/-- A capability is left out of a patched Pod: that is recorded, and nothing of it is there. -/
structure LeftOut (pod p : Pod) (install : Container) (tokens : List String) (c : Capability) :
    Prop where
  unlisted : c.listedAs ∉ tokens
  recorded : (p.metadata.annotations.getD .empty).get? c.record = some "false"
  flagged : InstallContainer.valueOf install c.flagEnv = "false"
  volumes : ∃ added, p.volumes = pod.volumes ++ added ∧ ∀ v ∈ added, v.name ∉ c.volumeNames
  installVars : ∀ v ∈ install.envVars, c.namesInstallVar v.name = false
  installMounts : ∀ m ∈ install.mounts, m.name ∉ c.volumeNames
  containers : List.Forall₂ (fun before after => ∃ vars mounts, before.Given after vars mounts ∧
    (∀ v ∈ vars, v.name ∉ c.varNames) ∧ ∀ m ∈ mounts, m.name ∉ c.volumeNames)
    pod.containers p.containers

/-- The marker of a patched Pod tells the truth: it lists the capabilities that are on, each of
these is set up, every other is left out, and there is one init container more. -/
structure Tells (i : Injection) (pod p : Pod) (on : Capability → Bool) (install : Container)
    (marker : String) (tokens : List String) : Prop where
  marked : (p.metadata.annotations.getD .empty).get? "beacon.dev/injected" = some marker
  marker : IsMarker marker tokens on
  init : p.initContainers = pod.initContainers ++ [install]
  setUp : ∀ c, on c = true → SetUp i pod p install tokens c
  leftOut : ∀ c, on c = false → LeftOut pod p install tokens c

namespace Injection

variable {i : Injection} {pod : Pod} {c : Capability}

/-- What becomes of each container in an injection. -/
theorem forall₂_containers_inject {R : Container → Container → Prop}
    (h : ∀ b, R b (i.attachment.attach b)) :
    List.Forall₂ R pod.containers (i.inject pod).containers := by
  rw [containers_inject, List.forall₂_map_right_iff]
  exact List.forall₂_same.mpr fun b _ => h b

theorem given_attach (h : i.Informed) (pod : Pod) (b : Container) :
    b.Given (i.attachment.attach b)
      (i.attachment.metadataVars b ++ i.selected fun c => (i.kit pod c).vars)
      (i.selected fun c => (i.kit pod c).mounts b.name) where
  vars := by rw [Attachment.envVars_attach, newVars_eq_selected h pod]
  mounts := by rw [Attachment.mounts_attach, newMounts_eq_selected h pod]

/-- **An enabled capability is set up.** -/
theorem setUp_inject (h : i.Informed) (on : i.features.enables c = true) :
    SetUp i pod (i.inject pod) (i.installContainer i.attachment pod)
      (i.features.enabled.map Capability.token) c where
  listed := ((isMarker_marker i.features).mem_iff _).mpr ⟨c, rfl, on⟩
  recorded := by rw [← ObjectMeta.annotationMap, annotationMap_inject, get?_record_records, on]; rfl
  flagged := by rw [valueOf_flagEnv h, on]; rfl
  volumes := by
    refine ⟨_, volumes_inject i pod, ?_⟩
    rw [volumes_eq_selected h pod]
    exact (sublist_selected (fun c => (i.kit pod c).volumes) on).cons _
  installVars v hv := (mem_envVars_install h pod v).mpr (.inr (.inr (mem_selected.mpr ⟨c, on, hv⟩)))
  installMounts := by
    rw [installMounts_eq_selected h]
    exact (sublist_selected (fun c => (i.kit pod c).installMounts) on).cons _
  containers := forall₂_containers_inject fun b =>
    ⟨_, _, given_attach h pod b,
      (sublist_selected (fun c => (i.kit pod c).vars) on).trans (List.sublist_append_right _ _),
      sublist_selected (fun c => (i.kit pod c).mounts b.name) on⟩

/-- **A capability that is off is left out.** -/
theorem leftOut_inject (h : i.Informed) (off : i.features.enables c = false) :
    LeftOut pod (i.inject pod) (i.installContainer i.attachment pod)
      (i.features.enabled.map Capability.token) c where
  unlisted := by
    intro hmem
    obtain ⟨d, htoken, hon⟩ := ((isMarker_marker i.features).mem_iff _).mp hmem
    rw [Capability.listedAs_inj htoken, hon] at off
    exact absurd off (by simp)
  recorded := by rw [← ObjectMeta.annotationMap, annotationMap_inject, get?_record_records, off]; rfl
  flagged := by rw [valueOf_flagEnv h, off]; rfl
  volumes := by
    refine ⟨_, volumes_inject i pod, fun v hv => ?_⟩
    rw [volumes_eq_selected h pod] at hv
    rcases List.mem_cons.mp hv with rfl | hv
    · cases c <;> decide
    · exact not_belongs_of_selected name_mem_of_mem_volumes
        (fun c d h x => Capability.volumeNames_apart c d h x.name) off hv
  installVars v hv := by
    rcases (mem_envVars_install h pod v).mp hv with hv | ⟨d, rfl⟩ | hv
    · exact not_namesInstallVar_of_podVars hv c
    · exact Capability.not_namesInstallVar_flagEnv c d
    · exact Bool.eq_false_iff.mpr (not_belongs_of_selected namesInstallVar_of_mem_installVars
        (fun c d h v => Capability.namesInstallVar_apart c d h v.name) off hv)
  installMounts m hm := by
    rw [installMounts_eq_selected h] at hm
    rcases List.mem_cons.mp hm with rfl | hm
    · cases c <;> decide
    · exact not_belongs_of_selected name_mem_of_mem_installMounts
        (fun c d h x => Capability.volumeNames_apart c d h x.name) off hm
  containers := forall₂_containers_inject fun b => by
    refine ⟨_, _, given_attach h pod b, fun v hv => ?_, fun m hm => ?_⟩
    · rcases List.mem_append.mp hv with hv | hv
      · exact not_named_of_metadataVars hv c
      · exact not_belongs_of_selected name_mem_of_mem_vars
          (fun c d h x => Capability.varNames_apart c d h x.name) off hv
    · exact not_belongs_of_selected name_mem_of_mem_mounts
        (fun c d h x => Capability.volumeNames_apart c d h x.name) off hm

/-- **The marker of an injection tells the truth.** -/
theorem tells_inject (h : i.Informed) :
    Tells i pod (i.inject pod) i.features.enables (i.installContainer i.attachment pod)
      i.features.marker (i.features.enabled.map Capability.token) where
  marked := by
    rw [← ObjectMeta.annotationMap, annotationMap_inject]
    exact get?_marker_records _ _
  marker := isMarker_marker i.features
  init := initContainers_inject i pod
  setUp _ on := setUp_inject h on
  leftOut _ off := leftOut_inject h off

end Injection

namespace Admission

open Dialogue

variable {σ : Type} {answers : (q : Query) → σ → q.Answer → σ → Prop} {s s' : σ}
variable {ws : WebhookSettings} {ns : String} {pod p : Pod} {warnings : List String}
variable {found : Namespace} {config : WorkloadConfig} {endpoint : Option EndpointFields}

/-- Where enrichment is on, whoever is admitted knows the endpoint. -/
theorem Admitted.isSome_endpoint (h : Admitted answers ns pod s found config endpoint s')
    (hingest : (features config pod).dataIngest = true) : endpoint.isSome = true := by
  obtain ⟨t, -, hprovision⟩ := h.asked
  obtain ⟨u, -, hendpoint⟩ := steps_provision.mp hprovision
  rcases hendpoint with ⟨hoff, -, -⟩ | ⟨-, fields, -, -, rfl⟩
  · rw [hingest] at hoff
    exact absurd hoff (by simp)
  · rfl

/-- **The marker of a first injection tells the truth.**  However the questions are answered, if an
admission patches a Pod without marker, the Pod was admitted under some config, its workload was
looked up where enrichment is on, and the marker lists exactly the capabilities that the switches and
the config turn on: each of these is set up as a whole, and of every other nothing is there. -/
theorem tells_of_patched (unmarked : pod.metadata.annotationMap.marksInjected = false)
    (h : (decide ws ns pod).run.Steps answers s (.ok (.patched p warnings)) s') :
    ∃ found config endpoint t workload u install marker tokens,
      Admitted answers ns pod s found config endpoint t ∧
      Looked answers ws found.metadata.nameOrEmpty pod (config.turnsOn pod .dataIngest) t
        workload u ∧
      Tells { injection ws config pod endpoint with workload } pod p (config.turnsOn pod) install
        marker tokens := by
  obtain ⟨found, config, endpoint, t, hadmitted, hact⟩ :=
    (steps_decide fun _ => Verdict.noConfusion).mp h
  rw [act, unmarked, if_neg Bool.false_ne_true, steps_inject] at hact
  obtain ⟨workload, u, hlooked, -, hverdict⟩ := hact
  obtain ⟨rfl, -⟩ := Verdict.patched.inj hverdict
  have hinformed : ({ injection ws config pod endpoint with workload } : Injection).Informed :=
    ⟨fun hingest => (isSome_of_looked hlooked).trans hingest, hadmitted.isSome_endpoint⟩
  have htells : Tells _ pod _ (features config pod).enables _ _ _ :=
    Injection.tells_inject hinformed
  have hon : (features config pod).enables = config.turnsOn pod :=
    funext (enables_features config pod)
  rw [hon] at htells
  have hingest : (injection ws config pod endpoint).features.dataIngest =
      config.turnsOn pod .dataIngest := dataIngest_features config pod
  rw [hingest] at hlooked
  exact ⟨found, config, endpoint, t, workload, u, _, _, _, hadmitted, hlooked, htells⟩

/-- Where the agent is switched off, the marker lists enrichment alone, and that is true. -/
theorem tells_of_agentOff :
    agentOffPod.metadata.annotationMap.marksInjected = false ∧
      ((decide shopSettings "shop" agentOffPod).run.run shopCluster.answer).1 =
        .ok (.patched (admitted agentOffPod) []) ∧
      ∃ i on install tokens,
        Tells i agentOffPod (admitted agentOffPod) on install "data-ingest" tokens := by
  have unmarked : agentOffPod.metadata.annotationMap.marksInjected = false := by decide +kernel
  have hverdict : ((decide shopSettings "shop" agentOffPod).run.run shopCluster.answer).1 =
      .ok (.patched (admitted agentOffPod) []) := by
    rfl
  have hrun : (decide shopSettings "shop" agentOffPod).run.Steps (Fixed shopCluster.answer) []
      (.ok (.patched (admitted agentOffPod) []))
      ((decide shopSettings "shop" agentOffPod).run.run shopCluster.answer).2 :=
    steps_run_iff.mpr ⟨hverdict.symm, rfl⟩
  obtain ⟨found, config, endpoint, t, workload, u, install, marker, tokens, -, -, htells⟩ :=
    tells_of_patched unmarked hrun
  have hmarker : (admitted agentOffPod).metadata.annotationMap.get? markerKey =
      some "data-ingest" := by decide +kernel
  obtain rfl : marker = "data-ingest" := Option.some.inj (htells.marked.symm.trans hmarker)
  exact ⟨unmarked, hverdict, _, _, install, tokens, htells⟩

end Admission

end InjectionWebhook
