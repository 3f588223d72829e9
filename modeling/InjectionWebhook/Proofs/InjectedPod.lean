/-
# The shape of an injected Pod

What `Injection.inject` leaves behind, through the views the rest of the theory looks at: volumes,
application containers, init containers (`volumes_inject`, `containers_inject`,
`initContainers_inject`), and the install container among the last.

The install container is built in layers: the count, variables that say how the injection was made
(`Injection.fixedVars`), and the entries of the application containers (`envVars_installContainer`).
What later admissions read back from it is what was written: the workload
(`workload?_installContainer`) and whether the agent is set up
(`valueOf_agentFlag_installContainer`).
-/
import InjectionWebhook.Proofs.InstallEntries

namespace InjectionWebhook

/-! ## 1. Views of a Pod -/

namespace Pod

/-- The init containers of a Pod. -/
def initContainers (p : Pod) : List Container := (p.spec.bind (·.initContainers)).getD []

/-- The volumes of a Pod. -/
def volumes (p : Pod) : List Volume := (p.spec.bind (·.volumes)).getD []

/-- The Pod with other application containers. -/
def withContainers (p : Pod) (cs : List Container) : Pod :=
  { p with spec := some { p.spec.getD {} with containers := cs } }

@[simp] theorem containers_withContainers (p : Pod) (cs : List Container) :
    (p.withContainers cs).containers = cs := rfl

@[simp] theorem initContainers_withContainers (p : Pod) (cs : List Container) :
    (p.withContainers cs).initContainers = p.initContainers := by
  rcases p with ⟨metadata, _ | spec, status⟩ <;> rfl

end Pod

theorem InstallContainer.find?_eq (p : Pod) :
    InstallContainer.find? p =
      p.initContainers.find? (fun c => decide (c.name = InstallContainer.name)) := by
  rcases p with ⟨metadata, _ | ⟨containers, _ | initContainers⟩, status⟩ <;> rfl

namespace Injection

/-! ## 2. The views after an injection -/

@[simp] theorem containers_inject (i : Injection) (pod : Pod) :
    (i.inject pod).containers = pod.containers.map i.attachment.attach := by
  rcases pod with ⟨metadata, _ | spec, status⟩ <;> rfl

@[simp] theorem initContainers_inject (i : Injection) (pod : Pod) :
    (i.inject pod).initContainers =
      pod.initContainers ++ [i.installContainer i.attachment pod] := by
  rcases pod with ⟨metadata, _ | spec, status⟩ <;> rfl

@[simp] theorem volumes_inject (i : Injection) (pod : Pod) :
    (i.inject pod).volumes = pod.volumes ++ i.volumes i.attachment := by
  rcases pod with ⟨metadata, _ | spec, status⟩ <;> rfl

@[simp] theorem annotationMap_inject (i : Injection) (pod : Pod) :
    (i.inject pod).metadata.annotationMap =
      pod.metadata.annotationMap.extend i.features.records := rfl

@[simp] theorem name_installContainer (i : Injection) (a : Attachment) (pod : Pod) :
    (i.installContainer a pod).name = InstallContainer.name := by
  unfold installContainer
  split <;> rfl

/-- The install container that is added is the one that is found, where there was none before. -/
theorem find?_inject {i : Injection} {pod : Pod} (h : InstallContainer.find? pod = none) :
    InstallContainer.find? (i.inject pod) = some (i.installContainer i.attachment pod) := by
  rw [InstallContainer.find?_eq] at h ⊢
  rw [initContainers_inject, List.find?_append, h, Option.none_or, List.find?_cons_of_pos]
  simp

/-! ## 3. The layers of the install container -/

/-- What the install container is told about the injection, behind the count: it does not depend on
the application containers. -/
def fixedVars (i : Injection) (a : Attachment) (m : ObjectMeta) : List EnvVar :=
  (InstallContainer.podVars { metadata := m } i.settings).tail ++
    InstallContainer.agentVars i.settings i.config i.features.oneAgent ++
    InstallContainer.enrichmentVars
      ((a.enrichment.map (·.workload)).filter fun _ => i.features.dataIngest)

/-- The entries a fresh injection writes. -/
def freshEntries (a : Attachment) (cs : List Container) : List EnvVar :=
  if a.agent.isSome then allEntriesFrom 1 cs else []

/-- **The layers of the install container**: the count, what does not depend on the containers, and
the entries. -/
theorem envVars_installContainer (i : Injection) (a : Attachment) (pod : Pod) :
    (i.installContainer a pod).envVars =
      .plain InstallContainer.countEnv (toString pod.containers.length) ::
        i.fixedVars a pod.metadata ++ freshEntries a pod.containers := by
  unfold installContainer freshEntries
  split
  · simp [InstallContainer.build, Container.envVars, InstallContainer.podVars, fixedVars,
      Container.appendEnv]
  · simp [InstallContainer.build, Container.envVars, InstallContainer.podVars, fixedVars]

/-- The names of the variables behind the count. -/
def fixedNames : List String :=
  ["FAILURE_POLICY", "K8S_PODNAME", "K8S_PODUID", "K8S_BASEPODNAME", "K8S_NAMESPACE",
    "K8S_NODE_NAME",
    "FLAVOR", "TECHNOLOGIES", "INSTALLPATH", "INSTALLER_URL", "MODE", InstallContainer.agentFlagEnv,
    workloadKindEnv, workloadNameEnv, InstallContainer.enrichmentFlagEnv]

theorem name_mem_fixedNames {i : Injection} {a : Attachment} {m : ObjectMeta} {e : EnvVar}
    (h : e ∈ i.fixedVars a m) : e.name ∈ fixedNames := by
  have hall : ∀ e ∈ i.fixedVars a m, e.name ∈ fixedNames := by
    unfold fixedVars InstallContainer.agentVars
    cases hw : (a.enrichment.map (·.workload)).filter fun _ => i.features.dataIngest <;>
      split <;>
      simp [InstallContainer.podVars, InstallContainer.enrichmentVars, EnvVar.plain, EnvVar.ofField,
        fixedNames]
  exact hall e h

/-- No variable behind the count is taken for an entry. -/
theorem isEntryName_of_mem_fixedVars {i : Injection} {a : Attachment} {m : ObjectMeta} {e : EnvVar}
    (h : e ∈ i.fixedVars a m) : InstallContainer.isEntryName e.name = false := by
  have hall : ∀ name ∈ fixedNames, InstallContainer.isEntryName name = false := by decide
  exact hall e.name (name_mem_fixedNames h)

theorem filter_freshEntries (a : Attachment) (cs : List Container) :
    (freshEntries a cs).filter (fun e => !InstallContainer.isEntryName e.name) = [] := by
  unfold freshEntries
  split
  · exact InstallContainer.filter_allEntriesFrom cs 1
  · rfl

/-! ## 4. Reading the install container -/

/-- A variable that is neither an entry nor the count is found among those behind the count. -/
theorem findEnv?_installContainer {name : String}
    (hentry : InstallContainer.isEntryName name = false) (hcount : name ≠ InstallContainer.countEnv)
    (i : Injection) (a : Attachment) (pod : Pod) :
    (i.installContainer a pod).findEnv? name =
      (i.fixedVars a pod.metadata).find? (fun e => decide (e.name = name)) := by
  have hnone : (freshEntries a pod.containers).find? (fun e => decide (e.name = name)) = none := by
    refine List.find?_eq_none.mpr fun e he hname => ?_
    have hmem : e ∉ (freshEntries a pod.containers).filter
        (fun e => !InstallContainer.isEntryName e.name) := by
      rw [filter_freshEntries]; exact List.not_mem_nil
    exact hmem (List.mem_filter.mpr ⟨he, by rw [of_decide_eq_true hname, hentry]; rfl⟩)
  rw [Container.findEnv?, envVars_installContainer, List.cons_append, List.find?_cons_of_neg,
    List.find?_append, hnone, Option.or_none]
  simp [EnvVar.plain, Ne.symm hcount]

/-- **The flag of the agent says what the injection decided.** -/
theorem valueOf_agentFlag_installContainer (i : Injection) (a : Attachment) (pod : Pod) :
    InstallContainer.valueOf (i.installContainer a pod) InstallContainer.agentFlagEnv =
      Features.word i.features.oneAgent := by
  rw [InstallContainer.valueOf, findEnv?_installContainer (by decide) (by decide)]
  cases h : i.features.oneAgent <;>
    simp [fixedVars, h, InstallContainer.podVars, InstallContainer.agentVars, EnvVar.plain,
      EnvVar.ofField, InstallContainer.agentFlagEnv, Features.word]

/-- What is found of the workload is the last layer of the variables behind the count. -/
theorem findEnv?_workload_installContainer {name : String}
    (h : name = workloadKindEnv ∨ name = workloadNameEnv) (i : Injection) (a : Attachment)
    (pod : Pod) :
    (i.installContainer a pod).findEnv? name =
      (InstallContainer.enrichmentVars
        ((a.enrichment.map (·.workload)).filter fun _ => i.features.dataIngest)).find?
          (fun e => decide (e.name = name)) := by
  rcases h with rfl | rfl <;>
  · rw [findEnv?_installContainer (by decide) (by decide), fixedVars]
    cases i.features.oneAgent <;>
      simp [InstallContainer.podVars, InstallContainer.agentVars, EnvVar.plain, EnvVar.ofField,
        InstallContainer.agentFlagEnv, workloadKindEnv, workloadNameEnv]

/-- Enrichment takes part only where it is switched on. -/
theorem dataIngest_of_enrichment {i : Injection} {e : EnrichmentAttachment}
    (h : i.attachment.enrichment = some e) : i.features.dataIngest = true := by
  unfold attachment at h
  dsimp only at h
  split at h
  · split at h
    · assumption
    · exact absurd h (by simp)
  · exact absurd h (by simp)

/-- **The workload is read back as it was written**, and none is where enrichment took no part. -/
theorem workload?_installContainer (i : Injection) (pod : Pod) :
    InstallContainer.workload? (i.installContainer i.attachment pod) =
      i.attachment.enrichment.map (·.workload) := by
  rw [InstallContainer.workload?, InstallContainer.valueOf, InstallContainer.valueOf,
    Container.hasEnv, findEnv?_workload_installContainer (.inr rfl),
    findEnv?_workload_installContainer (.inl rfl)]
  cases h : i.attachment.enrichment with
  | none =>
    simp [InstallContainer.enrichmentVars, EnvVar.plain, InstallContainer.enrichmentFlagEnv,
      workloadNameEnv]
  | some e =>
    have hkept : ((some e).map (·.workload)).filter (fun _ => i.features.dataIngest) =
        some e.workload := by
      rw [dataIngest_of_enrichment h]; rfl
    rw [hkept]
    simp [InstallContainer.enrichmentVars, EnvVar.plain, workloadKindEnv, workloadNameEnv]

end Injection
end InjectionWebhook
