/-
# Containers that count as carrying the agent

A container counts as carrying the agent if it has the variable that preloads it, whoever put that
there.  What the agent needs beside it are mounts: the configuration of the container, under its own
name, and the binaries (`Container.HasAgentMounts`).

This file follows an injected Pod through any number of admissions, while other parties put
containers in and move them (`PutsIn`).  After every repair with the agent each container has an
entry in the install container, and it has the mounts, with one exception: a container that came
with the variable and without the mounts is left without them (`Career.covered_of_repairs`, and
`not_covered_of_preloadingMesh` for the exception).

The invariant is `Carried`.  It says of the containers that count as carrying the agent that they
have the mounts or still are as they came (`Container.CameAs`); a step is an admission
(`Carried.admitted`) or an edit (`Carried.edited`).
-/
import InjectionWebhook.Proofs.Description
import InjectionWebhook.Proofs.RepairReach

namespace InjectionWebhook

/-! ## 1. The mounts of the agent -/

/-- Where a Pod wants the agent to be found in its application containers. -/
def Pod.installPath (p : Pod) : String :=
  (p.metadata.annotationMap.get? "oneagent.beacon.dev/install-path").getD
    "/opt/beacon/oneagent-paas"

namespace Container

/-- The container mounts its agent configuration, and the binaries at the install path. -/
structure HasAgentMounts (c : Container) (installPath : String) : Prop where
  conf : { name := "oneagent-share"
           mountPath := "/var/lib/beacon/oneagent/agent/config/container.conf"
           subPath := some ("container_" ++ c.name ++ ".conf") } ∈ c.mounts
  binaries : { name := "oneagent-bin", mountPath := installPath } ∈ c.mounts

instance (c : Container) (installPath : String) : Decidable (c.HasAgentMounts installPath) :=
  decidable_of_iff (_ ∧ _) ⟨fun h => ⟨h.1, h.2⟩, fun h => ⟨h.conf, h.binaries⟩⟩

/-- The container is one that somebody put in, with the mounts of enrichment in addition at most. -/
structure CameAs (c d : Container) : Prop where
  name : c.name = d.name
  mounts : ∃ more, c.mounts = d.mounts ++ more ∧ ∀ m ∈ more, m ∈ EnrichmentAttachment.mounts

theorem CameAs.refl (c : Container) : c.CameAs c := ⟨rfl, [], by simp⟩

/-- No mount of the agent is one of enrichment. -/
theorem not_mem_enrichmentMounts {m : VolumeMount}
    (h : m.name = Volume.binariesName ∨ m.name = Volume.shareName) :
    m ∉ EnrichmentAttachment.mounts := by
  intro hmem
  rcases h with h | h <;>
    rcases EnrichmentAttachment.name_of_mem_mounts hmem with h' | h' <;>
    exact absurd (h.symm.trans h') (by decide)

/-- A container that came with the mounts of the agent has them, and no other. -/
theorem CameAs.hasAgentMounts_iff {c d : Container} (h : c.CameAs d) (installPath : String) :
    c.HasAgentMounts installPath ↔ d.HasAgentMounts installPath := by
  obtain ⟨more, hmounts, hmore⟩ := h.mounts
  have hmem : ∀ m : VolumeMount, m.name = Volume.binariesName ∨ m.name = Volume.shareName →
      (m ∈ c.mounts ↔ m ∈ d.mounts) := by
    intro m hm
    rw [hmounts, List.mem_append]
    exact ⟨fun h => h.resolve_right fun h => not_mem_enrichmentMounts hm (hmore m h), .inl⟩
  constructor
  · rintro ⟨hconf, hbinaries⟩
    rw [h.name] at hconf
    exact ⟨(hmem _ (.inr rfl)).mp hconf, (hmem _ (.inl rfl)).mp hbinaries⟩
  · rintro ⟨hconf, hbinaries⟩
    rw [← h.name] at hconf
    exact ⟨(hmem _ (.inr rfl)).mpr hconf, (hmem _ (.inl rfl)).mpr hbinaries⟩

end Container

/-- **Who is given the agent is given its mounts.** -/
theorem Attachment.hasAgentMounts_attach {a : Attachment} {agent : AgentAttachment}
    (h : a.agent = some agent) (c : Container) :
    (a.attach c).HasAgentMounts agent.installPath := by
  have hmem : ∀ m ∈ agent.mounts c.name, m ∈ (a.attach c).mounts := by
    intro m hm
    rw [mounts_attach, newMounts, h]
    exact List.mem_append_right _ (List.mem_append_left _ hm)
  constructor
  · rw [name_attach]
    refine hmem _ (List.mem_append_left _ ?_)
    exact List.mem_cons_of_mem _ (List.mem_cons_of_mem _ List.mem_cons_self)
  · refine hmem _ (List.mem_append_left _ ?_)
    exact List.mem_cons_of_mem _ List.mem_cons_self

namespace Container

variable {c d : Container} {installPath : String}

/-- Nothing takes the mounts away again. -/
theorem HasAgentMounts.attach (h : c.HasAgentMounts installPath) (a : Attachment) :
    (a.attach c).HasAgentMounts installPath := by
  constructor
  · rw [Attachment.name_attach, Attachment.mounts_attach]
    exact List.mem_append_left _ h.conf
  · rw [Attachment.mounts_attach]
    exact List.mem_append_left _ h.binaries

/-- Without the agent, the mounts of enrichment are added at most. -/
theorem CameAs.attach (h : c.CameAs d) {a : Attachment} (hagent : a.agent = none) :
    (a.attach c).CameAs d := by
  obtain ⟨more, hmounts, hmore⟩ := h.mounts
  refine ⟨(Attachment.name_attach a c).trans h.name, more ++ a.newMounts c.name, ?_,
    fun m hm => ?_⟩
  · rw [Attachment.mounts_attach, hmounts, List.append_assoc]
  · rcases List.mem_append.mp hm with hm | hm
    · exact hmore m hm
    · rw [Attachment.newMounts, hagent, Option.elim_none, List.nil_append] at hm
      cases henrichment : a.enrichment with
      | none =>
        rw [henrichment] at hm
        exact absurd hm List.not_mem_nil
      | some e =>
        rw [henrichment] at hm
        exact hm

end Container

namespace InstallContainer

/-! ## 2. Who is listed -/

/-- Every container that carries the agent has an entry with its name. -/
theorem mem_entriesFrom {c : Container} (hagent : c.hasAgent = true) :
    ∀ {cs : List Container} {n m : Nat}, (c, n) ∈ cs.zipIdx m →
      .plain (entryNameEnv n) c.name ∈ entriesFrom m cs
  | [], _, _, h => absurd h List.not_mem_nil
  | d :: cs, n, m, h => by
    rw [List.zipIdx_cons] at h
    rcases List.mem_cons.mp h with h | h
    · obtain ⟨rfl, rfl⟩ := Prod.mk.inj h
      rw [entriesFrom, if_pos hagent]
      exact List.mem_append_left _ List.mem_cons_self
    · exact List.mem_append_right _ (mem_entriesFrom hagent h)

/-- Setting a variable keeps those with other names. -/
theorem mem_setVar {name value : String} {e : EnvVar} (hname : e.name ≠ name) :
    ∀ {vars : List EnvVar}, e ∈ vars → e ∈ setVar name value vars
  | [], h => absurd h List.not_mem_nil
  | d :: vars, h => by
    unfold setVar
    split
    · rename_i hd
      rcases List.mem_cons.mp h with rfl | h
      · exact absurd hd hname
      · exact List.mem_cons_of_mem _ h
    · rcases List.mem_cons.mp h with rfl | h
      · exact List.mem_cons_self
      · exact List.mem_cons_of_mem _ (mem_setVar hname h)

/-- **Every container that carries the agent is listed** when the entries are written anew. -/
theorem listed_sync (install : Container) {cs : List Container} {c : Container}
    {n : Nat} (hagent : c.hasAgent = true) (h : (c, n) ∈ cs.zipIdx 1) :
    .plain (entryNameEnv n) c.name ∈ (sync install cs).envVars := by
  rw [envVars_sync]
  refine mem_setVar (fun hname => ?_) (List.mem_append_right _ (mem_entriesFrom hagent h))
  have hentry : isEntryName (entryNameEnv n) = false := by
    rw [show entryNameEnv n = countEnv from hname, isEntryName_countEnv]
  rw [isEntryName_entryNameEnv] at hentry
  exact Bool.noConfusion hentry

end InstallContainer

namespace Injection

/-! ## 3. Injections and repairs with the agent -/

/-- An injected Pod has an install container. -/
theorem exists_find?_inject (i : Injection) (pod : Pod) :
    ∃ install, InstallContainer.find? (i.inject pod) = some install := by
  rw [InstallContainer.find?_eq, initContainers_inject, List.find?_append]
  cases pod.initContainers.find? fun c => decide (c.name = InstallContainer.name) with
  | some install => exact ⟨install, rfl⟩
  | none =>
    refine ⟨i.installContainer i.attachment pod, ?_⟩
    rw [Option.none_or, List.find?_cons_of_pos]
    exact decide_eq_true (name_installContainer i i.attachment pod)

/-- The agent is mounted where the settings say. -/
theorem installPath_of_attachment {i : Injection} {agent : AgentAttachment}
    (h : i.attachment.agent = some agent) : agent.installPath = i.settings.installPath := by
  rw [attachment] at h
  split at h
  · rw [← Option.some.inj h]
  · exact absurd h (by simp)

/-- So is the agent that a container lacks. -/
theorem installPath_of_lackingIn {i : Injection} {p : Pod} {c : Container}
    {agent : AgentAttachment} (h : (i.lackingIn p c).agent = some agent) :
    agent.installPath = i.settings.installPath := by
  rw [lackingIn, lacking, Attachment.agent_only] at h
  split at h
  · exact installPath_of_attachment (i := i.forRepair p) h
  · exact absurd h (by simp)

/-- **An injection with the agent mounts it in every container.** -/
theorem hasAgentMounts_inject {i : Injection} (hagent : i.features.oneAgent = true) (p : Pod) :
    ∀ c ∈ (i.inject p).containers, c.HasAgentMounts i.settings.installPath := by
  intro c' hc'
  rw [containers_inject] at hc'
  obtain ⟨c, -, rfl⟩ := List.mem_map.mp hc'
  rw [← isSome_agent_attachment] at hagent
  obtain ⟨agent, hsome⟩ := Option.isSome_iff_exists.mp hagent
  rw [← installPath_of_attachment hsome]
  exact Attachment.hasAgentMounts_attach hsome c

end Injection

namespace Admission

/-! ## 4. What an admission comes to -/

namespace Pass

/-- The pass repairs with the agent: it completes, the config asks for injections and repairs, and
the agent is on. -/
structure RepairsAgent (a : Pass) : Prop where
  config : ∃ config, a.config? = some config ∧ config.AsksForInjection ∧
    config.spec.features.enableWebhookReinvocationPolicy = true
  agent : a.features.oneAgent = true
  completes : ∃ v, a.outcome = .ok v

/-- What an admission comes to, with all it worked with. -/
inductive Ending (a : Pass) : Prop
  /-- A Pod without marker is injected. -/
  | injected {config : WorkloadConfig} {endpoint : Option EndpointFields}
      {workload : Option Workload} (bound : a.config? = some config) (unmarked : a.marked = false)
      (any : (Admission.features config a.before).any = true)
      (after : a.after =
        { injection a.settings config a.before endpoint with workload }.inject a.before)
  /-- A Pod with marker is repaired, or needs no repair. -/
  | repaired {config : WorkloadConfig} {endpoint : Option EndpointFields}
      (bound : a.config? = some config) (marked : a.marked = true)
      (after : a.after = ((injection a.settings config a.before endpoint).repair a.before).1)
  /-- A Pod is left alone, and no repair was asked for. -/
  | kept (unpatched : a.patched = false) (after : a.after = a.before) (idle : ¬ a.RepairsAgent)

theorem features_eq {a : Pass} {config : WorkloadConfig} (bound : a.config? = some config) :
    a.features = Admission.features config a.before := by
  rw [features, bound]
  rfl

/-- Such a pass repairs under the config of its namespace. -/
theorem RepairsAgent.asked {a : Pass} {config : WorkloadConfig} (h : a.RepairsAgent)
    (bound : a.config? = some config) :
    config.AsksForInjection ∧ config.spec.features.enableWebhookReinvocationPolicy = true := by
  obtain ⟨config', hconfig, hasked⟩ := h.config
  obtain rfl := Option.some.inj (bound.symm.trans hconfig)
  exact hasked

/-- **An admission comes to one of three ends.** -/
theorem ending (a : Pass) : a.Ending := by
  obtain ⟨asked, report, hexit⟩ := exists_exit a.answer a.settings a.ns a.before
  have hreport : reported a.outcome = report := (run_of_exit hexit).1
  have hkept : (∀ p warnings, report ≠ .ok (.patched p warnings)) → ¬ a.RepairsAgent →
      a.Ending := by
    intro hother idle
    obtain ⟨hunpatched, hafter⟩ := unpatched_of_report (hreport ▸ hother)
    exact .kept hunpatched hafter idle
  cases hexit with
  | injected ready unmarked =>
    obtain ⟨-, hafter⟩ := patched_of_outcome (reported_eq_ok_iff.mp hreport)
    exact .injected (config?_of_bound ready.wanted.bound) (Pod.not_marked_iff.mpr unmarked)
      (any_features_iff.mpr ready.wanted.any) hafter
  | repaired ready marked =>
    obtain ⟨-, hafter⟩ := patched_of_outcome (reported_eq_ok_iff.mp hreport)
    exact .repaired (config?_of_bound ready.wanted.bound) (Pod.marked_iff.mpr marked) hafter
  | @settled found name config endpoint ready marked idle =>
    have hbound := config?_of_bound ready.wanted.bound
    rcases idle with hoff | hunchanged
    · refine hkept (by simp) fun h => ?_
      rw [(h.asked hbound).2] at hoff
      exact Bool.noConfusion hoff
    · -- The repair would change nothing, so leaving the Pod as it is amounts to it.
      have hsame : ((injection a.settings config a.before endpoint).repair a.before).1 =
          a.before := by
        by_contra hchanged
        rw [(Injection.snd_repair_iff _ _).mpr hchanged] at hunchanged
        exact Bool.noConfusion hunchanged
      obtain ⟨-, hafter⟩ := unpatched_of_report (a := a) fun _ _ => by simp [hreport]
      exact .repaired hbound (Pod.marked_iff.mpr marked) (hafter.trans hsame.symm)
  | injectionOff bound off =>
    refine hkept (by simp) fun h => ?_
    exact off (h.asked (config?_of_bound bound)).1
  | @featuresOff found name config bound injects off =>
    refine hkept (by simp) fun h => ?_
    have hagent : config.turnsOn a.before .oneAgent = true := by
      rw [← enables_features, ← features_eq (config?_of_bound bound)]
      exact h.agent
    exact Bool.false_ne_true ((off .oneAgent).symm.trans hagent)
  | _ =>
    refine hkept (by simp) fun h => ?_
    obtain ⟨v, hv⟩ := h.completes
    rw [reported_eq_ok_iff.mpr hv] at hreport
    exact absurd hreport (by simp)

end Pass

/-! ## 5. Containers put in by others -/

/-- Other parties choose the application containers anew, out of those that are there and some that
they put in; nothing else changes. -/
structure PutsIn (added : List Container) (p p' : Pod) : Prop where
  rest : p' = p.withContainers p'.containers
  containers : ∀ c ∈ p'.containers, c ∈ p.containers ∨ c ∈ added

/-- The Pod was injected, and a container that counts as carrying the agent has its mounts or still
is as somebody put it in. -/
structure Carried (added : List Container) (installPath : String) (p : Pod) : Prop where
  marked : p.metadata.annotationMap.marksInjected = true
  path : p.installPath = installPath
  installed : ∃ install, InstallContainer.find? p = some install
  containers : ∀ c ∈ p.containers, c.hasAgent = true →
    c.HasAgentMounts installPath ∨ ∃ d ∈ added, d.hasAgent = true ∧ c.CameAs d

/-- Every container has an entry in the install container, and it mounts the agent, unless somebody
put it in with the variable that preloads the agent and without the mounts. -/
structure Covered (added : List Container) (installPath : String) (p : Pod) : Prop where
  listed : ∃ install, InstallContainer.find? p = some install ∧ ∀ c n,
    (c, n) ∈ p.containers.zipIdx 1 →
      .plain ("CONTAINER_" ++ toString n ++ "_NAME") c.name ∈ install.envVars
  mounted : ∀ c ∈ p.containers, c.HasAgentMounts installPath ∨
    ∃ d ∈ added, d.hasAgent = true ∧ ¬ d.HasAgentMounts installPath ∧ c.CameAs d

variable {added : List Container} {installPath : String}

/-- **A repair leaves every container with the mounts of the agent, or as it came.** -/
theorem Carried.repair {i : Injection} {p : Pod} (h : Carried added installPath p)
    (hpath : i.settings.installPath = installPath) :
    Carried added installPath (i.repair p).1 where
  marked := by
    rw [Injection.metadata_repair]
    exact h.marked
  path := by
    rw [Pod.installPath, Injection.metadata_repair]
    exact h.path
  installed := by
    obtain ⟨install, hfind⟩ := h.installed
    exact ⟨_, Injection.find?_repair hfind⟩
  containers := by
    intro c' hc' hcarries
    rw [Injection.containers_repair] at hc'
    obtain ⟨c, hc, rfl⟩ := List.mem_map.mp hc'
    cases hagent : (i.lackingIn p c).agent with
    | some agent =>
      rw [← hpath, ← Injection.installPath_of_lackingIn hagent]
      exact .inl (Attachment.hasAgentMounts_attach hagent c)
    | none =>
      rw [Attachment.hasAgent_attach, hagent, Option.isSome_none, Bool.or_false] at hcarries
      rcases h.containers c hc hcarries with hmounts | ⟨d, hd, hpreloads, hcame⟩
      · exact .inl (hmounts.attach _)
      · exact .inr ⟨d, hd, hpreloads, hcame.attach hagent⟩

/-- An admission of an injected Pod keeps the account of its containers. -/
theorem Carried.admitted {a : Pass} (h : Carried added installPath a.before) :
    Carried added installPath a.after := by
  cases a.ending with
  | injected bound unmarked =>
    exact absurd (h.marked.symm.trans unmarked) (by simp)
  | repaired bound marked after =>
    rw [after]
    exact h.repair h.path
  | kept unpatched after =>
    rw [after]
    exact h

/-- **Whatever others put in is accounted for.** -/
theorem Carried.edited {p p' : Pod} (h : Carried added installPath p) (e : PutsIn added p p') :
    Carried added installPath p' where
  marked := by
    rw [e.rest]
    exact h.marked
  path := by
    rw [e.rest]
    exact h.path
  installed := by
    rw [e.rest, InstallContainer.find?_eq, Pod.initContainers_withContainers,
      ← InstallContainer.find?_eq]
    exact h.installed
  containers := by
    intro c hc hcarries
    rcases e.containers c hc with hc | hc
    · exact h.containers c hc hcarries
    · exact .inr ⟨c, hc, hcarries, .refl c⟩

/-- **A repair with the agent covers an injected Pod.** -/
theorem Carried.covered {a : Pass} (h : Carried added installPath a.before)
    (hrepairs : a.RepairsAgent) : Covered added installPath a.after := by
  cases a.ending with
  | injected bound unmarked =>
    exact absurd (h.marked.symm.trans unmarked) (by simp)
  | @repaired config endpoint bound marked after =>
    let i := injection a.settings config a.before endpoint
    have hagent : i.features.oneAgent = true := by
      have hon := hrepairs.agent
      rw [Pass.features_eq bound] at hon
      exact hon
    obtain ⟨install, hfind⟩ := h.installed
    have hall : ∀ c ∈ a.after.containers, c.hasAgent = true := by
      rw [after, Injection.containers_repair]
      exact fun c => Injection.hasAgent_of_mem_repairedContainers hagent hfind
    refine ⟨⟨i.repairedInstall a.before install, ?_, fun c n hc => ?_⟩, fun c hc => ?_⟩
    · rw [after]
      exact Injection.find?_repair hfind
    · rw [Injection.repairedInstall, Injection.isSome_agent_repairAttachment, hagent, if_pos rfl]
      have hcarries := hall c (List.fst_mem_of_mem_zipIdx hc)
      rw [after, Injection.containers_repair] at hc
      exact InstallContainer.listed_sync install hcarries hc
    · by_cases hmounts : c.HasAgentMounts installPath
      · exact .inl hmounts
      · rcases h.admitted.containers c hc (hall c hc) with hmounts' | ⟨d, hd, hpreloads, hcame⟩
        · exact absurd hmounts' hmounts
        · exact .inr ⟨d, hd, hpreloads, mt (hcame.hasAgentMounts_iff _).mpr hmounts, hcame⟩
  | kept unpatched after idle => exact absurd hrepairs idle

/-- **An injection with the agent mounts it everywhere**, and nobody else is to account for. -/
theorem Carried.injected (added : List Container) {a : Pass} (hinjects : a.injects = true)
    (hagent : a.features.oneAgent = true) :
    (∀ c ∈ a.after.containers, c.HasAgentMounts a.before.installPath) ∧
      Carried added a.before.installPath a.after := by
  rw [Pass.injects_iff, Bool.and_eq_true, Bool.not_eq_true'] at hinjects
  obtain ⟨hpatched, hunmarked⟩ := hinjects
  cases a.ending with
  | @injected config endpoint workload bound unmarked any after =>
    let i : Injection := { injection a.settings config a.before endpoint with workload }
    rw [Pass.features_eq bound] at hagent
    have hmounts : ∀ c ∈ a.after.containers, c.HasAgentMounts a.before.installPath := by
      rw [after]
      exact Injection.hasAgentMounts_inject (i := i) hagent a.before
    refine ⟨hmounts, ?_, ?_, ?_, fun c hc _ => .inl (hmounts c hc)⟩
    · rw [after, Injection.annotationMap_inject]
      exact marksInjected_records any _
    · rw [after, Pod.installPath, Injection.annotationMap_inject, get?_records (by decide)]
      rfl
    · rw [after]
      exact i.exists_find?_inject a.before
  | repaired bound marked => exact absurd (hunmarked.symm.trans marked) (by simp)
  | kept unpatched => exact absurd (hpatched.symm.trans unpatched) (by simp)

/-- **Who counts as carrying the agent mounts it, or came that way.**  A pass injects a Pod with the
agent, and from then on others put containers in and move them, and admissions follow.  Right after
the injection every container mounts the agent.  After each repair with the agent every container
has its entry in the install container; it mounts the agent too, unless somebody put it in with the
variable that preloads the agent and without the mounts. -/
theorem Career.covered_of_repairs {first : Pass} {passes : List Pass} {p : Pod}
    (hinjects : first.injects = true) (hagent : first.features.oneAgent = true)
    (h : Career (PutsIn added) first.after passes p) :
    (∀ c ∈ first.after.containers, c.HasAgentMounts first.before.installPath) ∧
      ∀ a ∈ passes, a.RepairsAgent → Covered added first.before.installPath a.after := by
  obtain ⟨hmounts, hcarried⟩ := Carried.injected added hinjects hagent
  have hpasses := (h.invariant hcarried (fun hp e => hp.edited e) Carried.admitted).2
  exact ⟨hmounts, fun a ha hrepairs => (hpasses a ha).covered hrepairs⟩

/-- Another party puts a container in front. -/
def putInFront (c : Container) (p : Pod) : Pod := p.withContainers (c :: p.containers)

theorem putsIn_putInFront (c : Container) (p : Pod) : PutsIn [c] p (putInFront c p) where
  rest := rfl
  containers _ hd := (List.mem_cons.mp hd).symm.imp id List.mem_singleton.mpr

/-- The web application is injected, and then a sidecar is put in front. -/
def sidecarPass (c : Container) : Pass :=
  shopPass (putInFront c (shopPass Injection.webPod).after)

theorem career_sidecarPass (c : Container) :
    Career (PutsIn [c]) (shopPass Injection.webPod).after [sidecarPass c] (sidecarPass c).after :=
  .admitted (.edited .start (putsIn_putInFront c _))

/-- Where such a Pod is patched, it is repaired with the agent. -/
theorem repairsAgent_sidecarPass {c : Container} (h : (sidecarPass c).patched = true) :
    (sidecarPass c).RepairsAgent where
  config := ⟨repairingConfig, rfl, .inr rfl, rfl⟩
  agent := rfl
  completes := by
    unfold Pass.patched at h
    split at h
    · rename_i houtcome
      exact ⟨_, houtcome⟩
    · exact absurd h Bool.false_ne_true

/-- A sidecar without variables is given the mounts. -/
theorem covered_of_mesh :
    (shopPass Injection.webPod).injects = true ∧
      (shopPass Injection.webPod).features.oneAgent = true ∧
      Career (PutsIn [Injection.mesh]) (shopPass Injection.webPod).after
        [sidecarPass Injection.mesh] (sidecarPass Injection.mesh).after ∧
      (sidecarPass Injection.mesh).RepairsAgent ∧
      ∀ c ∈ (sidecarPass Injection.mesh).after.containers,
        c.HasAgentMounts Injection.webPod.installPath := by
  have hinjects : (shopPass Injection.webPod).injects = true := by decide +kernel
  have hcareer := career_sidecarPass Injection.mesh
  have hrepairs := repairsAgent_sidecarPass (c := Injection.mesh) (by decide +kernel)
  have hcovered := (Career.covered_of_repairs hinjects rfl hcareer).2 _ List.mem_cons_self hrepairs
  refine ⟨hinjects, rfl, hcareer, hrepairs, fun c hc => ?_⟩
  rcases hcovered.mounted c hc with hmounts | ⟨d, hd, hpreloads, -, -⟩
  · exact hmounts
  · rw [List.mem_singleton.mp hd] at hpreloads
    exact absurd hpreloads (by decide)

/-- A sidecar that preloads a library of its own. -/
def preloadingMesh : Container :=
  { Injection.mesh with env := some [.plain "LD_PRELOAD" "/usr/lib/libjemalloc.so"] }

/-- **A sidecar that preloads a library of its own is listed, and not equipped.**  It counts as
carrying the agent, so it has its entry, but it has none of the mounts. -/
theorem not_covered_of_preloadingMesh :
    (shopPass Injection.webPod).injects = true ∧
      (shopPass Injection.webPod).features.oneAgent = true ∧
      Career (PutsIn [preloadingMesh]) (shopPass Injection.webPod).after
        [sidecarPass preloadingMesh] (sidecarPass preloadingMesh).after ∧
      (sidecarPass preloadingMesh).RepairsAgent ∧
      (InstallContainer.find? (sidecarPass preloadingMesh).after).any
        (fun install => .plain "CONTAINER_1_NAME" "mesh" ∈ install.envVars) = true ∧
      ∃ c ∈ (sidecarPass preloadingMesh).after.containers, c.name = "mesh" ∧
        ¬ c.HasAgentMounts Injection.webPod.installPath :=
  ⟨by decide +kernel, rfl, career_sidecarPass preloadingMesh,
    repairsAgent_sidecarPass (by decide +kernel), by decide +kernel, by decide +kernel⟩

end Admission

end InjectionWebhook
