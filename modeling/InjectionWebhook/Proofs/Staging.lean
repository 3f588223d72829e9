/-
# Attaching in stages

A container need not be given an attachment at once: `Attachment.complete` gives it what it still
lacks, which is what a repair does to every container of a Pod with an install container
(`Injection.repairedContainers_of_find?`).  `complete_in_stages` says that the stages make no
difference: completing twice is completing once, and a container that is given one capability first
and the other one later ends up as if it had been given both at once.  Only if enrichment comes
first, its variables and mounts stand in front of those of the agent.

The deployment metadata carry the argument.  They come with the first stage, whichever it is, and
the second one finds them (`newVars_attach`), so that each stage adds the variables of its
capability and nothing else.
-/
import InjectionWebhook.Proofs.Declarations
import InjectionWebhook.Proofs.SecondRepair

namespace InjectionWebhook

/-- Another container with the same variables and the same mounts, in another order at most. -/
structure Container.Shuffles (c' c : Container) : Prop where
  rest : c' = { c with env := c'.env, volumeMounts := c'.volumeMounts }
  vars : c'.envVars.Perm c.envVars
  mounts : c'.mounts.Perm c.mounts

namespace Attachment

/-! ## 1. Completing a container -/

/-- Gives a container what it lacks of an attachment. -/
def complete (a : Attachment) (c : Container) : Container :=
  (a.only (!c.hasAgent) (!c.hasEnrichment)).attach c

theorem complete_eq (a : Attachment) (c : Container) :
    a.complete c = (Injection.lacking a true c).attach c := by
  rw [complete, Injection.lacking, Bool.and_true]

/-- **Completing twice is completing once.** -/
theorem complete_complete (a : Attachment) (c : Container) :
    a.complete (a.complete c) = a.complete c := by
  have hlacks := Injection.isEmpty_lacking_attach_lacking a true c
  rw [← complete_eq] at hlacks
  rw [complete_eq a (a.complete c)]
  exact attach_of_isEmpty hlacks (a.complete c)

/-- A container that nobody injected is given all. -/
theorem complete_of_untouched {c : Container} (h : c.Untouched) (a : Attachment) :
    a.complete c = a.attach c := by
  rw [complete_eq, Injection.lacking_of_untouched h.agent h.enrichment]

/-! ## 2. One attachment after another -/

/-- A container that is given anything has deployment metadata. -/
theorem hasEnv_metadataEnv_attach {a : Attachment} (h : a.isEmpty = false) (c : Container) :
    (a.attach c).hasEnv metadataEnv = true := by
  rw [Container.hasEnv_iff, envNames_attach, List.mem_append]
  exact .inl (mem_namesWithMetadata.mpr (.inr ⟨rfl, h⟩))

/-- **Whoever was given something before is given the variables of the capabilities only.** -/
theorem newVars_attach {a : Attachment} (h : a.isEmpty = false) (b : Attachment) (c : Container) :
    b.newVars (a.attach c) = b.capabilityVars := by
  rw [newVars, metadataVars, hasEnv_metadataEnv_attach h, Bool.or_true, if_pos rfl,
    List.nil_append]

/-- Two attachments, neither of them empty, add their variables and mounts one behind the other. -/
theorem attach_attach {a b : Attachment} (ha : a.isEmpty = false) (hb : b.isEmpty = false)
    (c : Container) :
    b.attach (a.attach c) =
      (c.appendMounts (a.newMounts c.name ++ b.newMounts c.name)).appendEnv
        (a.newVars c ++ b.capabilityVars) := by
  rw [attach_of_not_isEmpty hb, name_attach, newVars_attach ha, attach_of_not_isEmpty ha]
  simp only [Container.appendEnv, Container.appendMounts, Container.envVars, Container.mounts,
    Option.getD_some, List.append_assoc]

/-! ## 3. Two stages -/

section Stages

variable {a : Attachment}

/-- The two parts of an attachment mount what the whole mounts. -/
theorem newMounts_only_append (a : Attachment) (name : String) :
    (a.only true false).newMounts name ++ (a.only false true).newMounts name =
      a.newMounts name := by
  simp [newMounts]

/-- The two parts of an attachment declare what the whole declares. -/
theorem capabilityVars_only_append (a : Attachment) :
    (a.only true false).capabilityVars ++ (a.only false true).capabilityVars =
      a.capabilityVars := by
  simp [capabilityVars]

theorem isEmpty_only (a : Attachment) (agent enrichment : Bool) :
    (a.only agent enrichment).isEmpty =
      ((!agent || a.agent.isNone) && (!enrichment || a.enrichment.isNone)) := by
  rw [isEmpty, agent_only, enrichment_only]
  cases agent <;> cases enrichment <;> rfl

/-- A part that gives anything is part of a whole that does. -/
theorem isEmpty_of_only {agent enrichment : Bool} (h : (a.only agent enrichment).isEmpty = false) :
    a.isEmpty = false := by
  rw [isEmpty_only] at h
  rw [isEmpty]
  cases hagent : a.agent.isNone <;> cases henrichment : a.enrichment.isNone <;> simp_all

/-- Such a part comes with the deployment metadata of the whole. -/
theorem metadataVars_only {agent enrichment : Bool}
    (h : (a.only agent enrichment).isEmpty = false) (c : Container) :
    (a.only agent enrichment).metadataVars c = a.metadataVars c := by
  rw [metadataVars, metadataVars, h, isEmpty_of_only h]
  rfl

/-- **The agent first, then enrichment**: that is both at once. -/
theorem attach_agent_first (hagent : (a.only true false).isEmpty = false)
    (henrichment : (a.only false true).isEmpty = false) (c : Container) :
    (a.only false true).attach ((a.only true false).attach c) = a.attach c := by
  rw [attach_attach hagent henrichment, newMounts_only_append, newVars, metadataVars_only hagent,
    List.append_assoc, capabilityVars_only_append, attach_of_not_isEmpty (isEmpty_of_only hagent)]
  rfl

/-- **Enrichment first, then the agent**: that is both at once, in another order. -/
theorem shuffles_enrichment_first (hagent : (a.only true false).isEmpty = false)
    (henrichment : (a.only false true).isEmpty = false) (c : Container) :
    ((a.only true false).attach ((a.only false true).attach c)).Shuffles (a.attach c) := by
  have hboth := attach_agent_first hagent henrichment c
  rw [← hboth, attach_attach henrichment hagent, attach_attach hagent henrichment]
  refine ⟨rfl, ?_, ?_⟩
  · simp only [Container.envVars_appendEnv, Container.envVars_appendMounts, newVars,
      metadataVars_only hagent, metadataVars_only henrichment, List.append_assoc]
    exact ((List.perm_append_comm).append_left _).append_left _
  · simp only [Container.mounts_appendEnv, Container.mounts_appendMounts]
    exact (List.perm_append_comm).append_left _

end Stages

/-! ## 4. Any order of stages -/

section Completing

variable {a : Attachment} {c : Container}

/-- After the agent, enrichment is lacking. -/
theorem complete_agent_first (h : c.Untouched) (hagent : a.agent.isSome = true) :
    a.complete ((a.only true false).complete c) =
      (a.only false true).attach ((a.only true false).attach c) := by
  rw [complete_of_untouched h, complete, hasAgent_attach, hasEnrichment_attach, h.agent,
    h.enrichment, agent_only, enrichment_only, if_pos rfl, hagent]
  rfl

/-- After enrichment, the agent is lacking. -/
theorem complete_enrichment_first (h : c.Untouched) (henrichment : a.enrichment.isSome = true) :
    a.complete ((a.only false true).complete c) =
      (a.only true false).attach ((a.only false true).attach c) := by
  rw [complete_of_untouched h, complete, hasAgent_attach, hasEnrichment_attach, h.agent,
    h.enrichment, agent_only, enrichment_only, if_pos rfl, henrichment]
  rfl

/-- **A container has its deployment metadata once**, if it had them once at most and is given
anything. -/
theorem count_metadataEnv_attach (ha : a.isEmpty = false)
    (hc : c.envNames.count metadataEnv ≤ 1) : (a.attach c).envNames.count metadataEnv = 1 := by
  rw [envNames_attach, List.count_append,
    List.count_eq_zero.mpr a.metadataEnv_not_mem_capabilityNames, namesWithMetadata, ha,
    Bool.false_or, List.count_append]
  cases hmetadata : c.hasEnv metadataEnv with
  | true =>
    have hpos := List.count_pos_iff.mpr ((c.hasEnv_iff metadataEnv).mp hmetadata)
    simp only [if_true, List.count_nil]
    omega
  | false =>
    have hmissing : metadataEnv ∉ c.envNames := by
      rw [← c.hasEnv_iff, hmetadata]
      exact Bool.false_ne_true
    rw [List.count_eq_zero.mpr hmissing]
    rfl

/-- **Completing in stages comes to the same as attaching at once.**  A container is completed once
and for all.  It carries a capability after attaching exactly if it did before or was given it.  One
that carries neither may be given the agent first, and the whole attachment later, with the very
same result as if it had been given all at once; with enrichment first, variables and mounts are the
same but for their order, and the deployment metadata are there once. -/
theorem complete_in_stages (a : Attachment) (c : Container) :
    a.complete (a.complete c) = a.complete c ∧
      ((a.attach c).hasAgent = true ↔ c.hasAgent = true ∨ a.agent.isSome = true) ∧
      ((a.attach c).hasEnrichment = true ↔
        c.hasEnrichment = true ∨ a.enrichment.isSome = true) ∧
      (c.Untouched → a.agent.isSome = true → a.enrichment.isSome = true →
        a.complete ((a.only true false).complete c) = a.attach c ∧
        (a.complete ((a.only false true).complete c)).Shuffles (a.attach c) ∧
        (c.envNames.count "BEACON_DEPLOYMENT_METADATA" ≤ 1 →
          (a.complete ((a.only false true).complete c)).envNames.count
            "BEACON_DEPLOYMENT_METADATA" = 1)) := by
  refine ⟨complete_complete a c, ?_, ?_, fun huntouched hagent henrichment => ?_⟩
  · rw [hasAgent_attach, Bool.or_eq_true]
  · rw [hasEnrichment_attach, Bool.or_eq_true]
  have hagent' : (a.only true false).isEmpty = false := by
    rw [isEmpty_only, Option.isNone_eq_false_iff.mpr hagent]
    rfl
  have henrichment' : (a.only false true).isEmpty = false := by
    rw [isEmpty_only, Option.isNone_eq_false_iff.mpr henrichment]
    rfl
  have hshuffles := shuffles_enrichment_first hagent' henrichment' c
  rw [complete_agent_first huntouched hagent, complete_enrichment_first huntouched henrichment]
  refine ⟨attach_agent_first hagent' henrichment' c, hshuffles, fun hcount => ?_⟩
  calc _ = (a.attach c).envNames.count metadataEnv :=
        (hshuffles.vars.map (·.name)).count_eq metadataEnv
    _ = 1 := count_metadataEnv_attach (isEmpty_of_only hagent') hcount

end Completing

/-- A container with deployment metadata of its own, given everything, one capability at a time. -/
theorem annotatedWeb_in_stages :
    annotatedWeb.Untouched ∧ annotatedWeb.envNames.count "BEACON_DEPLOYMENT_METADATA" ≤ 1 ∧
      let a := Injection.fullInjection.attachment
      a.agent.isSome = true ∧ a.enrichment.isSome = true ∧
        a.complete ((a.only true false).complete annotatedWeb) = a.attach annotatedWeb ∧
        (a.complete ((a.only false true).complete annotatedWeb)).Shuffles
          (a.attach annotatedWeb) ∧
        (a.complete ((a.only false true).complete annotatedWeb)).envNames.count
          "BEACON_DEPLOYMENT_METADATA" = 1 := by
  have huntouched : annotatedWeb.Untouched := ⟨by decide, by decide⟩
  have hcount : annotatedWeb.envNames.count "BEACON_DEPLOYMENT_METADATA" ≤ 1 := by decide
  obtain ⟨-, -, -, hstages⟩ :=
    complete_in_stages Injection.fullInjection.attachment annotatedWeb
  obtain ⟨hagent, hshuffles, hmetadata⟩ := hstages huntouched rfl rfl
  exact ⟨huntouched, hcount, rfl, rfl, hagent, hshuffles, hmetadata hcount⟩

end Attachment

/-! ## 5. Repairs -/

/-- **A repair completes every container**, if the Pod has an install container. -/
theorem Injection.repairedContainers_of_find? {i : Injection} {pod : Pod} {install : Container}
    (h : InstallContainer.find? pod = some install) :
    i.repairedContainers pod = pod.containers.map (i.repairAttachment pod).complete := by
  refine List.map_congr_left fun c _ => ?_
  rw [Attachment.complete_eq, lackingIn, h]
  rfl

end InjectionWebhook
