/-
# Variables that are declared twice

What an attachment adds to a container stands behind the variables that are there, whatever their
names are.  Only the deployment metadata look first whether somebody declared them already; the
variables of the capabilities (`Attachment.capabilityNames`) are declared in any case, and where the
container declares one of them too, it has two variables of that name.

`envNames_attach` lists the names after attaching, and `nodup_attach_iff` says what follows for a
container that declares every variable once: it still does so exactly if it declares none of the
capabilities' variables, and else it declares just these twice.
-/
import InjectionWebhook.Proofs.Attachment
import Mathlib.Data.List.Nodup

namespace InjectionWebhook

/-! ## 1. Names of variables -/

/-- The names of the variables of a container, in order. -/
def Container.envNames (c : Container) : List String := c.envVars.map (·.name)

theorem Container.hasEnv_iff (c : Container) (name : String) :
    c.hasEnv name = true ↔ name ∈ c.envNames := by
  rw [hasEnv_eq_any, envNames, List.any_eq_true, List.mem_map]
  simp only [decide_eq_true_eq]

/-- The names of the variables of the agent. -/
def AgentAttachment.names (a : AgentAttachment) : List String :=
  ["LD_PRELOAD"] ++ (if a.config.GivesProxy then ["BEACON_PROXY"] else []) ++
    (if ∃ zone ∈ a.config.spec.networkZone, zone ≠ "" then ["BEACON_NETWORK_ZONE"] else [])

/-- The names of the variables of enrichment. -/
def EnrichmentAttachment.names : List String :=
  [ "BEACON_WORKLOAD_KIND", "BEACON_WORKLOAD_NAME", "BEACON_METRICS_INGEST_URL",
    "BEACON_METRICS_INGEST_API_TOKEN" ]

theorem AgentAttachment.map_name_vars (a : AgentAttachment) :
    a.vars.map (·.name) = a.names := by
  simp only [vars, names, ← WorkloadConfig.hasProxy_iff, ← WorkloadConfig.isSome_networkZone?_iff]
  cases a.config.hasProxy <;> cases a.config.networkZone? <;> rfl

theorem EnrichmentAttachment.map_name_vars (e : EnrichmentAttachment) :
    e.vars.map (·.name) = names := rfl

namespace Attachment

/-- The names of the variables that the capabilities of an attachment declare in every container. -/
def capabilityNames (a : Attachment) : List String :=
  a.agent.elim [] AgentAttachment.names ++ a.enrichment.elim [] fun _ => EnrichmentAttachment.names

theorem map_name_capabilityVars (a : Attachment) :
    a.capabilityVars.map (·.name) = a.capabilityNames := by
  obtain ⟨metadata, agent, enrichment⟩ := a
  rw [capabilityVars, List.map_append, capabilityNames]
  congr 1
  · cases agent with
    | none => rfl
    | some agent => exact agent.map_name_vars
  · cases enrichment <;> rfl

/-- Every variable that some capability declares. -/
def allNames : List String :=
  ["LD_PRELOAD", "BEACON_PROXY", "BEACON_NETWORK_ZONE"] ++ EnrichmentAttachment.names

/-- What the capabilities declare are some of these, in their order. -/
theorem sublist_allNames (a : Attachment) : a.capabilityNames.Sublist allNames := by
  have hagent : ∀ agent : AgentAttachment,
      agent.names.Sublist (["LD_PRELOAD"] ++ ["BEACON_PROXY"] ++ ["BEACON_NETWORK_ZONE"]) := by
    intro agent
    refine (List.Sublist.append (.refl _) ?_).append ?_
    · split <;> simp
    · split <;> simp
  refine List.Sublist.append ?_ ?_
  · cases a.agent with
    | none => exact List.nil_sublist _
    | some agent => exact hagent agent
  · cases a.enrichment with
    | none => exact List.nil_sublist _
    | some e => exact .refl _

/-- The capabilities declare each of their variables once. -/
theorem nodup_capabilityNames (a : Attachment) : a.capabilityNames.Nodup := by
  have hall : allNames.Nodup := by decide
  exact hall.sublist a.sublist_allNames

/-- The deployment metadata are no matter of a capability. -/
theorem metadataEnv_not_mem_capabilityNames (a : Attachment) :
    metadataEnv ∉ a.capabilityNames := by
  intro hmem
  exact absurd (a.sublist_allNames.subset hmem) (by decide)

/-! ## 2. Names after attaching -/

/-- The names in a container that has seen to its deployment metadata. -/
def namesWithMetadata (a : Attachment) (c : Container) : List String :=
  c.envNames ++ if a.isEmpty || c.hasEnv metadataEnv then [] else [metadataEnv]

theorem mem_namesWithMetadata {a : Attachment} {c : Container} {name : String} :
    name ∈ a.namesWithMetadata c ↔
      name ∈ c.envNames ∨ name = metadataEnv ∧ a.isEmpty = false := by
  rw [namesWithMetadata, List.mem_append]
  cases hempty : a.isEmpty with
  | true => simp
  | false =>
    cases hmetadata : c.hasEnv metadataEnv with
    | true =>
      have hmem := (c.hasEnv_iff metadataEnv).mp hmetadata
      simp only [Bool.or_true, if_true, List.not_mem_nil, or_false, and_true]
      exact ⟨.inl, fun h => h.elim id fun hname => hname ▸ hmem⟩
    | false => simp

/-- The deployment metadata are declared only where they are not there. -/
theorem nodup_namesWithMetadata {c : Container} (h : c.envNames.Nodup) (a : Attachment) :
    (a.namesWithMetadata c).Nodup := by
  rw [namesWithMetadata]
  split
  · rw [List.append_nil]
    exact h
  · rename_i hnew
    have hmissing : metadataEnv ∉ c.envNames := by
      rw [← c.hasEnv_iff]
      intro hmem
      rw [hmem, Bool.or_true] at hnew
      exact hnew rfl
    exact List.nodup_append.mpr ⟨h, List.nodup_singleton _, fun name hname other hother heq =>
      hmissing (List.mem_singleton.mp hother ▸ heq ▸ hname)⟩

/-- **The names after attaching**: those that were there, the deployment metadata if they were
missing, and those of the capabilities. -/
theorem envNames_attach (a : Attachment) (c : Container) :
    (a.attach c).envNames = a.namesWithMetadata c ++ a.capabilityNames := by
  have hmetadata : (a.metadataVars c).map (·.name) =
      if a.isEmpty || c.hasEnv metadataEnv then [] else [metadataEnv] := by
    unfold metadataVars
    split <;> rfl
  rw [Container.envNames, envVars_attach, newVars, List.map_append, List.map_append, hmetadata,
    map_name_capabilityVars, namesWithMetadata, List.append_assoc]
  rfl

/-- How often a container that declares every variable once declares a name after attaching: once
for itself or for the metadata, and once more for the capabilities. -/
theorem count_envNames_attach {c : Container} (h : c.envNames.Nodup) (a : Attachment)
    (name : String) :
    (a.attach c).envNames.count name =
      (if name ∈ c.envNames ∨ name = metadataEnv ∧ a.isEmpty = false then 1 else 0) +
        if name ∈ a.capabilityNames then 1 else 0 := by
  rw [envNames_attach, List.count_append, (nodup_namesWithMetadata h a).count,
    a.nodup_capabilityNames.count]
  simp only [mem_namesWithMetadata]

/-- **What is declared twice.**  A container that declares every variable once still does so after
attaching exactly if it declares none of the variables of the capabilities.  A name is declared
twice exactly if both declare it, and no name more often; the variables of the container stand in
front.  The deployment metadata are not declared twice. -/
theorem nodup_attach_iff {c : Container} (h : c.envNames.Nodup) (a : Attachment) :
    ((a.attach c).envNames.Nodup ↔ ∀ name ∈ a.capabilityNames, name ∉ c.envNames) ∧
      (∀ name, (a.attach c).envNames.count name = 2 ↔
        name ∈ a.capabilityNames ∧ name ∈ c.envNames) ∧
      (∀ name, (a.attach c).envNames.count name ≤ 2) ∧
      (a.attach c).envNames.count "BEACON_DEPLOYMENT_METADATA" ≤ 1 ∧
      c.envVars <+: (a.attach c).envVars := by
  have hcapability : ∀ name ∈ a.capabilityNames, ¬ (name = metadataEnv ∧ a.isEmpty = false) :=
    fun name hname hmetadata => a.metadataEnv_not_mem_capabilityNames (hmetadata.1 ▸ hname)
  have htwice : ∀ name, (a.attach c).envNames.count name = 2 ↔
      name ∈ a.capabilityNames ∧ name ∈ c.envNames := by
    intro name
    rw [count_envNames_attach h]
    by_cases hname : name ∈ a.capabilityNames
    · simp only [hname, hcapability name hname, or_false, if_true, true_and]
      split <;> simp_all
    · simp only [hname, if_false, false_and, iff_false]
      split <;> omega
  have hmost : ∀ name, (a.attach c).envNames.count name ≤ 2 := by
    intro name
    rw [count_envNames_attach h]
    split <;> split <;> omega
  refine ⟨?_, htwice, hmost, ?_, ⟨a.newVars c, (envVars_attach a c).symm⟩⟩
  · rw [List.nodup_iff_count_le_one]
    constructor
    · intro honce name hname hmem
      have hcount := (htwice name).mpr ⟨hname, hmem⟩
      have hle := honce name
      omega
    · intro hapart name
      have hne : (a.attach c).envNames.count name ≠ 2 :=
        fun hcount => hapart name ((htwice name).mp hcount).1 ((htwice name).mp hcount).2
      have hle := hmost name
      omega
  · change (a.attach c).envNames.count metadataEnv ≤ 1
    rw [count_envNames_attach h, if_neg a.metadataEnv_not_mem_capabilityNames]
    split <;> omega

/-- The agent at its usual place, under a config with a proxy. -/
def proxiedAgent : Attachment :=
  { metadata := "m"
    agent := some
      { config :=
          { spec :=
              { apiUrl := "https://beacon.example"
                proxy := some { value := some "http://proxy:3128" } } }
        installPath := "/opt/beacon/oneagent-paas" } }

/-- A container with settings of its own, and with deployment metadata that somebody wrote. -/
def annotatedWeb : Container :=
  { name := "web", env := some [.plain "PORT" "80", .plain "BEACON_DEPLOYMENT_METADATA" "own"] }

/-- It keeps its settings, and no variable is declared twice. -/
theorem nodup_attach_annotatedWeb :
    annotatedWeb.envNames.Nodup ∧
      (∀ name ∈ proxiedAgent.capabilityNames, name ∉ annotatedWeb.envNames) ∧
      (proxiedAgent.attach annotatedWeb).envNames.Nodup := by
  have hnodup : annotatedWeb.envNames.Nodup := by decide
  have hapart : ∀ name ∈ proxiedAgent.capabilityNames, name ∉ annotatedWeb.envNames := by decide
  exact ⟨hnodup, hapart, (nodup_attach_iff hnodup proxiedAgent).1.mpr hapart⟩

/-- A container that preloads a library of its own. -/
def preloadingWeb : Container :=
  { name := "web", env := some [.plain "LD_PRELOAD" "/usr/lib/libjemalloc.so"] }

/-- **A library of one's own is declared beside the agent**: the variable that preloads is declared
twice. -/
theorem not_nodup_attach_preloadingWeb :
    preloadingWeb.envNames.Nodup ∧ ¬ (proxiedAgent.attach preloadingWeb).envNames.Nodup ∧
      (proxiedAgent.attach preloadingWeb).envVars.filter (fun e => e.name = "LD_PRELOAD") =
        [.plain "LD_PRELOAD" "/usr/lib/libjemalloc.so",
          .plain "LD_PRELOAD" "/opt/beacon/oneagent-paas/agent/lib64/liboneagentproc.so"] := by
  refine ⟨by decide, by decide, by decide⟩

end Attachment

end InjectionWebhook
