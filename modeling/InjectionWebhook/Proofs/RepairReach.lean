/-
# How far a repair reaches

A repair touches two things only: containers that lack something, and the variables of the install
container.  `Injection.Touches` lists what that means for the Pod as a whole, and `touches_repair`
says that every repair keeps to it and reports exactly whether it changed anything.

The report is the delicate part, since it is put together from tests of single containers
(`snd_repair_iff`): a container that is given something does change (`attach_eq_self_iff`), and so
does an install container whose variables are stale.
-/
import InjectionWebhook.Proofs.Repair
import Mathlib.Data.List.Forall2

namespace InjectionWebhook

/-! ## 1. Containers that grow -/

/-- The container carries whatever an attachment holds. -/
structure Container.Carries (c : Container) (a : Attachment) : Prop where
  agent : a.agent.isSome = true → c.hasAgent = true
  enrichment : a.enrichment.isSome = true → c.hasEnrichment = true

/-- One container is another one with variables and mounts added behind those it has. -/
structure Container.Extends (c' c : Container) : Prop where
  rest : c' = { c with env := c'.env, volumeMounts := c'.volumeMounts }
  vars : c.envVars <+: c'.envVars
  mounts : c.mounts <+: c'.mounts

namespace Attachment

/-- What is attached is added at the end. -/
theorem extends_attach (a : Attachment) (c : Container) : (a.attach c).Extends c where
  rest := by
    cases h : a.isEmpty with
    | true => rw [attach_of_isEmpty h]
    | false => rw [attach_of_not_isEmpty h]; rfl
  vars := ⟨a.newVars c, (envVars_attach a c).symm⟩
  mounts := ⟨a.newMounts c.name, (mounts_attach a c).symm⟩

/-- Every capability comes with variables. -/
theorem newVars_ne_nil {a : Attachment} (h : a.isEmpty = false) (c : Container) :
    a.newVars c ≠ [] := by
  obtain ⟨metadata, agent, enrichment⟩ := a
  cases agent with
  | some agent => simp [newVars, capabilityVars, AgentAttachment.vars]
  | none =>
    cases enrichment with
    | some enrichment => simp [newVars, capabilityVars, EnrichmentAttachment.vars]
    | none => exact absurd h (by simp [isEmpty])

/-- **A container that is given something changes.** -/
theorem attach_eq_self_iff (a : Attachment) (c : Container) :
    a.attach c = c ↔ a.isEmpty = true := by
  constructor
  · intro h
    by_contra hempty
    have hvars := congrArg Container.envVars h
    rw [envVars_attach, List.append_right_eq_self] at hvars
    exact newVars_ne_nil (Bool.not_eq_true _ ▸ hempty) c hvars
  · intro h
    exact attach_of_isEmpty h c

end Attachment

/-- The first install container has other variables, which agree in all but entries and count. -/
def InstallContainer.Updated (cs cs' : List Container) : Prop :=
  ∃ before install after env,
    cs = before ++ install :: after ∧ (∀ c ∈ before, c.name ≠ "install-beacon") ∧
      install.name = "install-beacon" ∧
      cs' = before ++ { install with env := some env } :: after ∧
      others env = others install.envVars

/-- Writing to the install container leaves the names alone. -/
theorem InstallContainer.Updated.map_name {cs cs' : List Container}
    (h : InstallContainer.Updated cs cs') : cs'.map (·.name) = cs.map (·.name) := by
  obtain ⟨before, install, after, env, rfl, -, -, rfl, -⟩ := h
  simp

namespace Injection

variable {i : Injection} {pod : Pod}

/-- A container that carries everything lacks nothing. -/
theorem isEmpty_lackingIn_of_carries {c : Container} (h : c.Carries (i.repairAttachment pod)) :
    (i.lackingIn pod c).isEmpty = true := by
  obtain ⟨hagent, henrichment⟩ := h
  rw [lackingIn, lacking, Attachment.isEmpty, Attachment.agent_only, Attachment.enrichment_only]
  cases hagent' : (i.repairAttachment pod).agent <;>
    cases henrichment' : (i.repairAttachment pod).enrichment <;> simp_all

/-- Without an install container nobody is given the agent. -/
theorem hasAgent_attach_lackingIn (h : InstallContainer.find? pod = none) (c : Container) :
    ((i.lackingIn pod c).attach c).hasAgent = c.hasAgent := by
  rw [Attachment.hasAgent_attach, lackingIn, h, lacking, Attachment.agent_only]
  simp

/-! ## 2. The report is exact -/

/-- The containers stay as they are exactly if none of them lacks anything. -/
theorem repairedContainers_eq_iff (i : Injection) (pod : Pod) :
    i.repairedContainers pod = pod.containers ↔
      ∀ c ∈ pod.containers, (i.lackingIn pod c).isEmpty = true := by
  have hmap : i.repairedContainers pod = pod.containers ↔
      pod.containers.map (fun c => (i.lackingIn pod c).attach c) = pod.containers.map id := by
    rw [List.map_id, repairedContainers]
  rw [hmap, List.map_inj_left]
  constructor
  · intro h c hc
    exact (Attachment.attach_eq_self_iff _ c).mp (h c hc)
  · intro h c hc
    exact (Attachment.attach_eq_self_iff _ c).mpr (h c hc)

/-- The test for stale entries compares all there is to compare. -/
theorem isStale_eq_false_iff (install : Container) (cs : List Container) :
    InstallContainer.isStale install cs = false ↔ InstallContainer.sync install cs = install := by
  rw [InstallContainer.isStale, decide_eq_false_iff_not, not_not]
  constructor
  · intro h
    calc
      InstallContainer.sync install cs
          = { install with env := (InstallContainer.sync install cs).env } := rfl
      _ = { install with env := install.env } := by rw [h]
      _ = install := rfl
  · intro h
    rw [h]

/-- **A repair reports a change exactly where there is one.** -/
theorem snd_repair_iff (i : Injection) (pod : Pod) :
    (i.repair pod).2 = true ↔ (i.repair pod).1 ≠ pod := by
  cases hspec : pod.spec with
  | none => simp [repair_of_spec_eq_none hspec]
  | some spec =>
    cases hempty : (i.repairAttachment pod).isEmpty with
    | true => simp [repair_of_isEmpty hempty]
    | false =>
      constructor
      · intro hchanged heq
        have hcontainers : i.repairedContainers pod = pod.containers := by
          rw [← containers_repair, heq]
        rw [repair_of_not_isEmpty hspec hempty, Bool.or_eq_true] at hchanged
        rcases hchanged with hgiven | hstale
        · obtain ⟨c, hc, hlacking⟩ := List.any_eq_true.mp hgiven
          rw [(repairedContainers_eq_iff i pod).mp hcontainers c hc] at hlacking
          exact Bool.false_ne_true hlacking
        · obtain ⟨hagent, hstale⟩ := Bool.and_eq_true_iff.mp hstale
          cases hfind : InstallContainer.find? pod with
          | none =>
            rw [hfind] at hstale
            exact Bool.false_ne_true hstale
          | some install =>
            have hinstall := find?_repair (i := i) hfind
            rw [heq, hfind, repairedInstall, if_pos hagent] at hinstall
            rw [hfind, Option.any_some, (isStale_eq_false_iff _ _).mpr
              (Option.some.inj hinstall).symm] at hstale
            exact Bool.false_ne_true hstale
      · intro hne
        by_contra hsame
        rw [Bool.not_eq_true, repair_of_not_isEmpty hspec hempty, Bool.or_eq_false_iff] at hsame
        obtain ⟨hgiven, hstale⟩ := hsame
        have hlacking : ∀ c ∈ pod.containers, (i.lackingIn pod c).isEmpty = true := by
          intro c hc
          simpa using List.any_eq_false.mp hgiven c hc
        refine hne (congrArg Prod.fst (repair_of_settled hlacking ?_))
        intro hagent install hfind
        rw [hagent, Bool.true_and, hfind, Option.any_some, isStale_eq_false_iff,
          (repairedContainers_eq_iff i pod).mpr hlacking] at hstale
        exact hstale

/-! ## 3. The init containers -/

/-- **Only the first install container is written to**, and only with the agent. -/
theorem initContainers_repair_cases (i : Injection) (pod : Pod) :
    (i.repair pod).1.initContainers = pod.initContainers ∨
      i.features.oneAgent = true ∧
        InstallContainer.Updated pod.initContainers (i.repair pod).1.initContainers := by
  rw [initContainers_repair, repairedInit, isSome_agent_repairAttachment]
  cases hagent : i.features.oneAgent with
  | false => exact .inl rfl
  | true =>
    rw [if_pos rfl]
    cases hfind : pod.initContainers.find? fun c => decide (c.name = InstallContainer.name) with
    | none => exact .inl (replaceFirst_of_find?_eq_none hfind)
    | some install =>
      obtain ⟨hname, before, after, hcs, hbefore⟩ := List.find?_eq_some_iff_append.mp hfind
      have hnone : before.find? (fun c => decide (c.name = InstallContainer.name)) = none := by
        refine List.find?_eq_none.mpr fun c hc => ?_
        simpa using hbefore c hc
      refine .inr ⟨rfl, before, install, after,
        (InstallContainer.sync install (i.repairedContainers pod)).envVars, hcs, ?_,
        of_decide_eq_true hname, ?_, InstallContainer.others_sync _ _⟩
      · intro c hc
        have hne : c.name ≠ InstallContainer.name := by simpa using hbefore c hc
        exact hne
      · rw [hcs, replaceFirst_append_cons hnone hname, ← InstallContainer.sync_eq]

/-! ## 4. The whole Pod -/

/-- What is left of a Pod by something that touches no more than a repair may, and reports whether
it did. -/
structure Touches (i : Injection) (pod p : Pod) (changed : Bool) : Prop where
  /-- The report is exact. -/
  reported : changed = true ↔ p ≠ pod
  /-- All but containers and init containers stays. -/
  rest : p = { pod with
    spec := pod.spec.map fun spec =>
      { spec with
        containers := p.containers
        initContainers := spec.initContainers.map fun _ => p.initContainers } }
  /-- The numbers, the order and the names stay. -/
  names : p.containers.map (·.name) = pod.containers.map (·.name) ∧
    p.initContainers.map (·.name) = pod.initContainers.map (·.name)
  /-- The containers are the same ones, each with variables and mounts added at most. -/
  containers : List.Forall₂ (fun c c' => Container.Extends c' c) pod.containers p.containers
  /-- A container that carries all that is wanted is left alone. -/
  carrying : List.Forall₂ (fun c c' => c.Carries (i.repairAttachment pod) → c' = c)
    pod.containers p.containers
  /-- Without an install container nobody gains the agent. -/
  unequipped : InstallContainer.find? pod = none →
    p.containers.map Container.hasAgent = pod.containers.map Container.hasAgent
  /-- Of the init containers, the first install container has its entries written at most. -/
  initContainers : p.initContainers = pod.initContainers ∨
    i.features.oneAgent = true ∧
      InstallContainer.Updated pod.initContainers p.initContainers

/-- **A repair touches only what it must, and says whether it did.** -/
theorem touches_repair (i : Injection) (pod : Pod) :
    i.Touches pod (i.repair pod).1 (i.repair pod).2 where
  reported := snd_repair_iff i pod
  rest := by
    rw [containers_repair, initContainers_repair, fst_repair]
    rcases pod with ⟨metadata, _ | ⟨containers, _ | initContainers⟩, status⟩ <;> rfl
  names := by
    constructor
    · rw [containers_repair, repairedContainers, List.map_map]
      refine List.map_congr_left fun c _ => ?_
      exact Attachment.name_attach _ c
    · rcases initContainers_repair_cases i pod with hsame | ⟨-, hupdated⟩
      · rw [hsame]
      · exact hupdated.map_name
  containers := by
    rw [containers_repair, repairedContainers, List.forall₂_map_right_iff, List.forall₂_same]
    intro c _
    exact Attachment.extends_attach _ c
  carrying := by
    rw [containers_repair, repairedContainers, List.forall₂_map_right_iff, List.forall₂_same]
    intro c _ hcarries
    exact Attachment.attach_of_isEmpty (isEmpty_lackingIn_of_carries hcarries) c
  unequipped := by
    intro hfind
    rw [containers_repair, repairedContainers, List.map_map]
    refine List.map_congr_left fun c _ => ?_
    exact hasAgent_attach_lackingIn hfind c
  initContainers := initContainers_repair_cases i pod

end Injection
end InjectionWebhook
