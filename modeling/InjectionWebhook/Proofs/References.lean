/-
# References to secrets

Volumes of a Pod and variables of its containers refer to secrets of its namespace.  A patch `Adds`
a reference if the Pod holds it more often than before, in its volumes, in its application
containers or in its init containers.

An injection adds references to the two supporting secrets and to the proxy key (`adds_inject`); a
repair adds references to the proxy key only (`adds_repair`).
-/
import InjectionWebhook.Proofs.Repair

namespace InjectionWebhook

/-! ## 1. References -/

/-- A reference of a Pod to a secret of its namespace. -/
inductive SecretRef where
  /-- A volume shows the whole secret. -/
  | whole (name : String)
  /-- A variable takes the value at a key. -/
  | key (name key : String)
deriving DecidableEq

/-- The reference of a volume. -/
def Volume.secretRef? (v : Volume) : Option SecretRef := (v.secret.bind (·.secretName)).map .whole

/-- The reference of a variable. -/
def EnvVar.secretRef? (e : EnvVar) : Option SecretRef :=
  (e.source.bind (·.secretKey)).map fun r => .key r.name r.key

/-- The references of volumes. -/
def volumeRefs (volumes : List Volume) : List SecretRef := volumes.filterMap Volume.secretRef?

/-- The references of variables. -/
def varRefs (vars : List EnvVar) : List SecretRef := vars.filterMap EnvVar.secretRef?

/-- The references of the variables of containers. -/
def containerRefs (cs : List Container) : List SecretRef := cs.flatMap fun c => varRefs c.envVars

/-- A patched Pod holds a reference more often than the Pod did before. -/
def Adds (before after : Pod) (r : SecretRef) : Prop :=
  (volumeRefs before.volumes).count r < (volumeRefs after.volumes).count r ∨
    (containerRefs before.containers).count r < (containerRefs after.containers).count r ∨
    (containerRefs before.initContainers).count r < (containerRefs after.initContainers).count r

instance (before after : Pod) (r : SecretRef) : Decidable (Adds before after r) :=
  inferInstanceAs (Decidable (_ ∨ _ ∨ _))

/-- The reference to the key of the proxy. -/
def proxyRef : SecretRef := .key "beacon-injection-config" "proxy"

theorem varRefs_append (vars vars' : List EnvVar) :
    varRefs (vars ++ vars') = varRefs vars ++ varRefs vars' :=
  List.filterMap_append

theorem volumeRefs_append (vs vs' : List Volume) :
    volumeRefs (vs ++ vs') = volumeRefs vs ++ volumeRefs vs' :=
  List.filterMap_append

theorem containerRefs_append (cs cs' : List Container) :
    containerRefs (cs ++ cs') = containerRefs cs ++ containerRefs cs' :=
  List.flatMap_append

/-! ## 2. What an attachment refers to -/

theorem varRefs_agentVars (a : AgentAttachment) :
    varRefs a.vars = if a.config.hasProxy then [proxyRef] else [] := by
  unfold AgentAttachment.vars varRefs
  split <;> split <;> rfl

theorem varRefs_enrichmentVars (e : EnrichmentAttachment) : varRefs e.vars = [] := rfl

/-- **An attachment refers to the proxy key at most**, and only with a proxy. -/
theorem eq_proxyRef_of_mem_newVars {a : Attachment} {c : Container} {r : SecretRef}
    (h : r ∈ varRefs (a.newVars c)) : r = proxyRef := by
  have hmetadata : varRefs (a.metadataVars c) = [] := by
    unfold Attachment.metadataVars
    split <;> rfl
  rw [Attachment.newVars, varRefs_append, hmetadata, List.nil_append, Attachment.capabilityVars,
    varRefs_append] at h
  rcases List.mem_append.mp h with h | h
  · cases hagent : a.agent with
    | none =>
      rw [hagent] at h
      exact absurd h List.not_mem_nil
    | some agent =>
      rw [hagent, Option.elim_some, varRefs_agentVars] at h
      split at h
      · exact List.mem_singleton.mp h
      · exact absurd h List.not_mem_nil
  · cases henrichment : a.enrichment with
    | none =>
      rw [henrichment] at h
      exact absurd h List.not_mem_nil
    | some e =>
      rw [henrichment, Option.elim_some, varRefs_enrichmentVars] at h
      exact absurd h List.not_mem_nil

/-- Containers that are given attachments keep their references and get those of the attachments. -/
theorem count_containerRefs_attach (f : Container → Attachment) (r : SecretRef) :
    ∀ cs : List Container,
    (containerRefs (cs.map fun c => (f c).attach c)).count r =
      (containerRefs cs).count r + (cs.flatMap fun c => varRefs ((f c).newVars c)).count r
  | [] => rfl
  | c :: cs => by
    have ih := count_containerRefs_attach f r cs
    simp only [containerRefs, List.map_cons, List.flatMap_cons, List.count_append,
      Attachment.envVars_attach, varRefs_append] at ih ⊢
    omega

/-- **Containers get references to the proxy key only.** -/
theorem eq_proxyRef_of_count_lt {f : Container → Attachment} {cs : List Container} {r : SecretRef}
    (h : (containerRefs cs).count r < (containerRefs (cs.map fun c => (f c).attach c)).count r) :
    r = proxyRef := by
  rw [count_containerRefs_attach] at h
  have hpos : 0 < (cs.flatMap fun c => varRefs ((f c).newVars c)).count r := by omega
  obtain ⟨c, -, hr⟩ := List.mem_flatMap.mp (List.count_pos_iff.mp hpos)
  exact eq_proxyRef_of_mem_newVars hr

/-! ## 3. What the install container refers to -/

namespace InstallContainer

theorem varRefs_setVar (name value : String) : ∀ vars : List EnvVar,
    varRefs (setVar name value vars) = varRefs vars
  | [] => rfl
  | e :: vars => by
    unfold setVar
    split
    · rfl
    · have ih := varRefs_setVar name value vars
      simp only [varRefs, List.filterMap_cons] at ih ⊢
      rw [ih]

theorem varRefs_entriesFrom : ∀ (cs : List Container) (n : Nat), varRefs (entriesFrom n cs) = []
  | [], _ => rfl
  | c :: cs, n => by
    rw [entriesFrom, varRefs_append, varRefs_entriesFrom cs (n + 1), List.append_nil]
    split <;> rfl

/-- Writing the entries anew adds no reference. -/
theorem count_varRefs_sync (install : Container) (cs : List Container) (r : SecretRef) :
    (varRefs (sync install cs).envVars).count r ≤ (varRefs install.envVars).count r := by
  rw [envVars_sync, varRefs_setVar, varRefs_append, varRefs_entriesFrom, List.append_nil]
  exact (List.filter_sublist.filterMap _).count_le r

end InstallContainer

/-- Replacing a container by one with fewer references adds none. -/
theorem count_containerRefs_replaceFirst {p : Container → Bool} {f : Container → Container}
    {r : SecretRef} (hf : ∀ c, (varRefs (f c).envVars).count r ≤ (varRefs c.envVars).count r) :
    ∀ cs : List Container,
      (containerRefs (replaceFirst p f cs)).count r ≤ (containerRefs cs).count r
  | [] => Nat.le_refl _
  | c :: cs => by
    have ih := count_containerRefs_replaceFirst (p := p) hf cs
    have hc := hf c
    unfold replaceFirst
    split <;>
    · simp only [containerRefs, List.flatMap_cons, List.count_append] at ih ⊢
      omega

namespace Injection

variable {i : Injection} {pod : Pod} {r : SecretRef}

theorem varRefs_allEntriesFrom : ∀ (cs : List Container) (n : Nat),
    varRefs (allEntriesFrom n cs) = []
  | [], _ => rfl
  | c :: cs, n => by
    rw [allEntriesFrom, varRefs_append, varRefs_allEntriesFrom cs (n + 1), List.append_nil]
    rfl

/-- The variables of the install container refer to no secret. -/
theorem containerRefs_installContainer (i : Injection) (a : Attachment) (pod : Pod) :
    containerRefs [i.installContainer a pod] = [] := by
  have hfixed : varRefs (i.fixedVars a pod.metadata) = [] := by
    unfold fixedVars InstallContainer.agentVars
    cases (a.enrichment.map (·.workload)).filter fun _ => i.features.dataIngest <;> split <;> rfl
  have hfresh : varRefs (freshEntries a pod.containers) = [] := by
    unfold freshEntries
    split
    · exact varRefs_allEntriesFrom _ _
    · rfl
  rw [containerRefs, List.flatMap_cons, List.flatMap_nil, List.append_nil, envVars_installContainer,
    varRefs_append, hfresh, List.append_nil]
  exact hfixed

/-- The volumes of an injection refer to the supporting secrets. -/
theorem mem_volumeRefs_volumes {a : Attachment} (h : r ∈ volumeRefs (i.volumes a)) :
    r = .whole initSecretName ∨ r = .whole endpointSecretName ∧ a.enrichment.isSome = true := by
  have hagent : volumeRefs (Volume.forAgent i.driver i.config) = [] := by
    unfold Volume.forAgent Volume.binaries
    split <;> rfl
  rw [volumes, volumeRefs_append, volumeRefs_append, List.mem_append, List.mem_append] at h
  rcases h with (h | h) | h
  · exact .inl (List.mem_singleton.mp h)
  · split at h
    · rw [hagent] at h
      exact absurd h List.not_mem_nil
    · exact absurd h List.not_mem_nil
  · split at h
    · rename_i henrichment
      exact .inr ⟨List.mem_singleton.mp h, henrichment⟩
    · exact absurd h List.not_mem_nil

/-! ## 4. What a patch adds -/

/-- **An injection adds references to the supporting secrets and to the proxy key.** -/
theorem adds_inject (h : Adds pod (i.inject pod) r) :
    r = .whole initSecretName ∨
      r = .whole endpointSecretName ∧ i.attachment.enrichment.isSome = true ∨ r = proxyRef := by
  rcases h with h | h | h
  · rw [volumes_inject, volumeRefs_append, List.count_append] at h
    have hpos : 0 < (volumeRefs (i.volumes i.attachment)).count r := by omega
    rcases mem_volumeRefs_volumes (List.count_pos_iff.mp hpos) with h | h
    · exact .inl h
    · exact .inr (.inl h)
  · rw [containers_inject] at h
    exact .inr (.inr (eq_proxyRef_of_count_lt h))
  · rw [initContainers_inject, containerRefs_append, containerRefs_installContainer,
      List.append_nil] at h
    exact absurd h (Nat.lt_irrefl _)

/-- **A repair adds references to the proxy key only.** -/
theorem adds_repair (h : Adds pod (i.repair pod).1 r) : r = proxyRef := by
  rcases h with h | h | h
  · rw [volumes_repair] at h
    exact absurd h (Nat.lt_irrefl _)
  · rw [containers_repair, repairedContainers] at h
    exact eq_proxyRef_of_count_lt h
  · rw [initContainers_repair, repairedInit] at h
    split at h
    · have hle := count_containerRefs_replaceFirst (r := r)
        (p := fun c => decide (c.name = InstallContainer.name))
        (fun c => InstallContainer.count_varRefs_sync c (i.repairedContainers pod) r)
        pod.initContainers
      omega
    · exact absurd h (Nat.lt_irrefl _)

end Injection

end InjectionWebhook
