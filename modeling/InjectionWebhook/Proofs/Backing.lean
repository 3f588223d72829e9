/-
# Mounts and what backs them

A mount is backed if the Pod declares a volume with its name, and a container may carry the agent
only if the install container sets the agent up.  A Pod with both is `Sound`.

Volumes and the blocks of the install container are written once, by the injection; later repairs
give containers what the switches ask for at that time.  `sound_iff_of_life` says what follows for
the whole life of a Pod, with any number of admissions and edits by others: every patch leaves the
Pod sound exactly if no repair gives out an agent that was not set up (`Overreaches`).

The invariant is `Equipped`: what the injection set up, and that its volumes are there.  One step of
a life is an injection (`equipped_inject`), a repair (`equipped_repair`, `contained_repair`) or an
edit (`Equipped.edited`).
-/
import InjectionWebhook.Proofs.Settling

namespace InjectionWebhook

/-! ## 1. Sound Pods -/

namespace Pod

/-- Every mount of a reserved volume, in application and init containers, names a declared
volume. -/
def Backed (p : Pod) : Prop :=
  ∀ c ∈ p.containers ++ p.initContainers, ∀ m ∈ c.mounts, m.name ∈ Volume.reserved →
    ∃ v ∈ p.volumes, v.name = m.name

/-- Some application container mounts what the agent needs. -/
def MountsAgent (p : Pod) : Prop :=
  ∃ c ∈ p.containers, ∃ m ∈ c.mounts, m.name = Volume.binariesName ∨ m.name = Volume.shareName

/-- The install container sets the agent up: it is told to, and it mounts what the agent needs. -/
def SetsUpAgent (p : Pod) : Prop :=
  ∃ install ∈ InstallContainer.find? p,
    InstallContainer.valueOf install InstallContainer.agentFlagEnv = "true" ∧
      (∃ m ∈ install.mounts, m.name = Volume.binariesName) ∧
      ∃ m ∈ install.mounts, m.name = Volume.shareName

/-- Mounts are backed, and the agent is attached only where it is set up. -/
def Sound (p : Pod) : Prop := p.Backed ∧ (p.MountsAgent → p.SetsUpAgent)

instance (p : Pod) : Decidable p.Backed := by unfold Backed; infer_instance

instance (p : Pod) : Decidable p.MountsAgent := by unfold MountsAgent; infer_instance

instance (p : Pod) : Decidable p.SetsUpAgent := by unfold SetsUpAgent; infer_instance

instance (p : Pod) : Decidable p.Sound := by unfold Sound; infer_instance

end Pod

/-! ## 2. The names of mounts -/

/-- The names of the volumes that go with capabilities. -/
def Volume.namesFor (agent enrichment : Bool) : List String :=
  [configName] ++ (if agent then [binariesName, shareName] else []) ++
    (if enrichment then [enrichmentName, endpointName] else [])

theorem Volume.mem_namesFor {agent enrichment : Bool} {name : String} :
    name ∈ namesFor agent enrichment ↔
      name = configName ∨ agent = true ∧ (name = binariesName ∨ name = shareName) ∨
        enrichment = true ∧ (name = enrichmentName ∨ name = endpointName) := by
  cases agent <;> cases enrichment <;> simp [namesFor, or_assoc]

/-- Capabilities in addition need volumes in addition. -/
theorem Volume.mem_namesFor_of_le {agent enrichment agent' enrichment' : Bool} {name : String}
    (hagent : agent = true → agent' = true) (henrichment : enrichment = true → enrichment' = true)
    (h : name ∈ namesFor agent enrichment) : name ∈ namesFor agent' enrichment' := by
  rw [mem_namesFor] at h ⊢
  rcases h with h | ⟨ha, h⟩ | ⟨he, h⟩
  · exact .inl h
  · exact .inr (.inl ⟨hagent ha, h⟩)
  · exact .inr (.inr ⟨henrichment he, h⟩)

/-- The volumes of the agent go with the agent alone. -/
theorem Volume.agent_of_mem_namesFor {agent enrichment : Bool} {name : String}
    (hname : name = binariesName ∨ name = shareName) (h : name ∈ namesFor agent enrichment) :
    agent = true := by
  cases agent with
  | true => rfl
  | false =>
    rcases hname with rfl | rfl <;> cases enrichment <;> exact absurd h (by decide)

/-- The mounts of reserved volumes stay within the volumes of some capabilities. -/
def Contained (agent enrichment : Bool) (cs : List Container) : Prop :=
  ∀ c ∈ cs, ∀ m ∈ c.mounts, m.name ∈ Volume.reserved → m.name ∈ Volume.namesFor agent enrichment

theorem AgentAttachment.name_of_mem_mounts {a : AgentAttachment} {name : String} {m : VolumeMount}
    (h : m ∈ a.mounts name) : m.name = Volume.binariesName ∨ m.name = Volume.shareName := by
  rcases List.mem_append.mp h with h | h
  · simp only [List.mem_cons, List.not_mem_nil, or_false] at h
    rcases h with rfl | rfl | rfl
    · exact .inr rfl
    · exact .inl rfl
    · exact .inr rfl
  · split at h
    · rw [List.mem_singleton.mp h]
      exact .inr rfl
    · exact absurd h List.not_mem_nil

theorem EnrichmentAttachment.name_of_mem_mounts {m : VolumeMount} (h : m ∈ mounts) :
    m.name = Volume.enrichmentName ∨ m.name = Volume.endpointName := by
  simp only [mounts, List.mem_cons, List.not_mem_nil, or_false] at h
  rcases h with rfl | rfl
  · exact .inl rfl
  · exact .inr rfl

/-- What an attachment mounts are the volumes of its capabilities. -/
theorem Attachment.name_mem_of_mem_newMounts {a : Attachment} {name : String} {m : VolumeMount}
    (h : m ∈ a.newMounts name) : m.name ∈ Volume.namesFor a.agent.isSome a.enrichment.isSome := by
  rw [Volume.mem_namesFor]
  rcases List.mem_append.mp h with h | h
  · cases hagent : a.agent with
    | none => simp [hagent] at h
    | some agent =>
      rw [hagent] at h
      exact .inr (.inl ⟨rfl, AgentAttachment.name_of_mem_mounts h⟩)
  · cases henrichment : a.enrichment with
    | none => simp [henrichment] at h
    | some e =>
      rw [henrichment] at h
      exact .inr (.inr ⟨rfl, EnrichmentAttachment.name_of_mem_mounts h⟩)

/-- A container with an attachment has the mounts it had and those of the attachment. -/
theorem Contained.attach {agent enrichment : Bool} {a : Attachment} {c : Container}
    (hc : Contained agent enrichment [c]) (hagent : a.agent.isSome = true → agent = true)
    (henrichment : a.enrichment.isSome = true → enrichment = true) :
    Contained agent enrichment [a.attach c] := by
  intro d hd m hm hreserved
  rw [List.mem_singleton.mp hd, Attachment.mounts_attach] at hm
  rcases List.mem_append.mp hm with hm | hm
  · exact hc c (List.mem_singleton.mpr rfl) m hm hreserved
  · exact Volume.mem_namesFor_of_le hagent henrichment (Attachment.name_mem_of_mem_newMounts hm)

/-- The install container mounts the volumes of the capabilities it sets up. -/
theorem InstallContainer.name_mem_of_mem_mounts {agent enrichment : Bool} {m : VolumeMount}
    (h : m ∈ InstallContainer.mounts agent enrichment) :
    m.name ∈ Volume.namesFor agent enrichment := by
  have hall : ∀ m ∈ mounts agent enrichment, m.name ∈ Volume.namesFor agent enrichment := by
    cases agent <;> cases enrichment <;> decide
  exact hall m h

/-! ## 3. What an injection sets up -/

/-- A Pod was injected with some capabilities: it is marked, its install container was made for
them, and their volumes are declared. -/
structure Equipped (agent enrichment : Bool) (p : Pod) (install : Container) : Prop where
  marked : p.metadata.annotationMap.marksInjected = true
  find : InstallContainer.find? p = some install
  flag : InstallContainer.valueOf install InstallContainer.agentFlagEnv = Features.word agent
  mounts : install.mounts = InstallContainer.mounts agent enrichment
  workload : (InstallContainer.workload? install).isSome = enrichment
  volumes : ∀ name ∈ Volume.namesFor agent enrichment, ∃ v ∈ p.volumes, v.name = name
  init : Contained agent enrichment p.initContainers

namespace Equipped

variable {agent enrichment : Bool} {p : Pod} {install : Container}

/-- **The agent is set up where it was injected first.** -/
theorem setsUpAgent_iff (h : Equipped agent enrichment p install) :
    p.SetsUpAgent ↔ agent = true := by
  constructor
  · rintro ⟨install', hfind, hflag, -⟩
    rw [h.find] at hfind
    rw [← Option.some.inj hfind, h.flag] at hflag
    cases agent with
    | true => rfl
    | false => exact absurd hflag (by decide)
  · rintro rfl
    refine ⟨install, h.find, h.flag, ?_⟩
    rw [h.mounts]
    cases enrichment <;> decide

/-- **A Pod is sound where its mounts stay within what was set up.** -/
theorem sound (h : Equipped agent enrichment p install)
    (hcontained : Contained agent enrichment p.containers) : p.Sound := by
  constructor
  · intro c hc m hm hreserved
    rcases List.mem_append.mp hc with hc | hc
    · exact h.volumes m.name (hcontained c hc m hm hreserved)
    · exact h.volumes m.name (h.init c hc m hm hreserved)
  · rintro ⟨c, hc, m, hm, hname⟩
    have hreserved : m.name ∈ Volume.reserved := by
      rcases hname with hname | hname <;> rw [hname] <;> decide
    exact h.setsUpAgent_iff.mpr
      (Volume.agent_of_mem_namesFor hname (hcontained c hc m hm hreserved))

end Equipped

/-- A Pod as it is before any injection: no marker, no install container, no mount of a reserved
volume. -/
structure Pod.Fresh (p : Pod) : Prop where
  unmarked : p.metadata.annotationMap.marksInjected = false
  find : InstallContainer.find? p = none
  mounts : ∀ c ∈ p.containers ++ p.initContainers, ∀ m ∈ c.mounts, m.name ∉ Volume.reserved

namespace Injection

variable {i : Injection} {pod : Pod}

/-- An injection declares the volumes of its capabilities. -/
theorem map_name_volumes (i : Injection) (a : Attachment) :
    (i.volumes a).map (·.name) = Volume.namesFor a.agent.isSome a.enrichment.isSome := by
  have hbinaries : (Volume.binaries i.driver i.config).name = Volume.binariesName := by
    unfold Volume.binaries
    split <;> rfl
  unfold volumes
  cases a.agent <;> cases a.enrichment <;>
    simp [Volume.namesFor, Volume.forAgent, Volume.forEnrichment, Volume.config, Volume.ofSecret,
      Volume.scratch, hbinaries]

theorem mounts_installContainer (i : Injection) (pod : Pod) :
    (i.installContainer i.attachment pod).mounts =
      InstallContainer.mounts i.features.oneAgent i.attachment.enrichment.isSome := by
  have hkept : ((i.attachment.enrichment.map (·.workload)).filter
      fun _ => i.features.dataIngest).isSome = i.attachment.enrichment.isSome := by
    cases h : i.attachment.enrichment with
    | none => rfl
    | some e =>
      rw [dataIngest_of_enrichment h]
      rfl
  rw [← hkept]
  unfold installContainer
  split <;> rfl

/-- **An injection sets up its capabilities.** -/
theorem equipped_inject (hfresh : pod.Fresh) (hany : i.features.any = true) :
    Equipped i.features.oneAgent i.attachment.enrichment.isSome (i.inject pod)
      (i.installContainer i.attachment pod) where
  marked := marksInjected_records hany _
  find := find?_inject hfresh.find
  flag := valueOf_agentFlag_installContainer i i.attachment pod
  mounts := mounts_installContainer i pod
  workload := by
    rw [workload?_installContainer, Option.isSome_map]
  volumes := by
    intro name hname
    rw [← isSome_agent_attachment, ← map_name_volumes] at hname
    obtain ⟨v, hv, rfl⟩ := List.mem_map.mp hname
    rw [volumes_inject]
    exact ⟨v, List.mem_append_right _ hv, rfl⟩
  init := by
    intro c hc m hm hreserved
    rw [initContainers_inject] at hc
    rcases List.mem_append.mp hc with hc | hc
    · exact absurd hreserved (hfresh.mounts c (List.mem_append_right _ hc) m hm)
    · rw [List.mem_singleton.mp hc, mounts_installContainer] at hm
      exact InstallContainer.name_mem_of_mem_mounts hm

/-- An injection mounts what it sets up. -/
theorem contained_inject (hfresh : pod.Fresh) :
    Contained i.features.oneAgent i.attachment.enrichment.isSome (i.inject pod).containers := by
  intro c hc
  rw [containers_inject] at hc
  obtain ⟨b, hb, rfl⟩ := List.mem_map.mp hc
  have hbare : Contained i.features.oneAgent i.attachment.enrichment.isSome [b] := by
    intro d hd m hm hreserved
    rw [List.mem_singleton.mp hd] at hm
    exact absurd hreserved (hfresh.mounts b (List.mem_append_left _ hb) m hm)
  have hattached := hbare.attach (a := i.attachment) (by rw [isSome_agent_attachment]; exact id) id
  exact hattached _ (List.mem_singleton.mpr rfl)

/-! ## 4. What a repair keeps -/

theorem mounts_repairedInstall (install : Container) :
    (i.repairedInstall pod install).mounts = install.mounts := by
  unfold repairedInstall
  split <;> rfl

variable {agent enrichment : Bool} {install : Container}

/-- **A repair keeps what the injection set up.** -/
theorem equipped_repair (h : Equipped agent enrichment pod install) :
    Equipped agent enrichment (i.repair pod).1 (i.repairedInstall pod install) where
  marked := by
    rw [metadata_repair]
    exact h.marked
  find := find?_repair h.find
  flag := by
    rw [InstallContainer.valueOf, findEnv?_repairedInstall (by decide) (by decide)]
    exact h.flag
  mounts := by
    rw [mounts_repairedInstall]
    exact h.mounts
  workload := by
    rw [InstallContainer.workload?, InstallContainer.valueOf, InstallContainer.valueOf,
      Container.hasEnv, findEnv?_repairedInstall (by decide) (by decide),
      findEnv?_repairedInstall (by decide) (by decide)]
    exact h.workload
  volumes := by
    rw [volumes_repair]
    exact h.volumes
  init := by
    intro c hc m hm hreserved
    rcases mem_initContainers_repair h.find hc with hc | rfl
    · exact h.init c hc m hm hreserved
    · rw [mounts_repairedInstall, h.mounts] at hm
      exact InstallContainer.name_mem_of_mem_mounts hm

/-- A container lacks enrichment only where a workload was recorded. -/
theorem enrichment_of_lackingIn (h : Equipped agent enrichment pod install) {c : Container}
    (hlacks : (i.lackingIn pod c).enrichment.isSome = true) : enrichment = true := by
  rw [← h.workload]
  cases hworkload : InstallContainer.workload? install with
  | some w => rfl
  | none =>
    have hforRepair : (i.forRepair pod).workload = none := by
      rw [forRepair, h.find, Option.bind_some, hworkload]
    have hnone : (i.repairAttachment pod).enrichment = none := by
      rw [repairAttachment, attachment, hforRepair]
    rw [lackingIn, lacking, Attachment.enrichment_only, hnone, ite_self] at hlacks
    exact absurd hlacks Bool.false_ne_true

/-- **A repair mounts what was set up**, unless it gives out an agent that was not. -/
theorem contained_repair (h : Equipped agent enrichment pod install)
    (hcontained : Contained agent enrichment pod.containers)
    (hagent : i.features.oneAgent = true → (∃ c ∈ pod.containers, c.hasAgent = false) →
      agent = true) :
    Contained agent enrichment (i.repair pod).1.containers := by
  intro c hc
  rw [containers_repair] at hc
  obtain ⟨b, hb, rfl⟩ := List.mem_map.mp hc
  have hbare : Contained agent enrichment [b] := by
    intro d hd
    rw [List.mem_singleton.mp hd]
    exact hcontained b hb
  have hgiven : (i.lackingIn pod b).agent.isSome = true → agent = true := by
    intro hlacks
    rw [isSome_agent_lackingIn h.find, Bool.and_eq_true, Bool.not_eq_true'] at hlacks
    exact hagent hlacks.1 ⟨b, hb, hlacks.2⟩
  exact hbare.attach hgiven (enrichment_of_lackingIn h) _ (List.mem_singleton.mpr rfl)

/-- **A repair that gives out an agent that was not set up leaves the Pod unsound.** -/
theorem not_sound_repair (h : Equipped false enrichment pod install)
    (hon : i.features.oneAgent = true) (hlacks : ∃ c ∈ pod.containers, c.hasAgent = false) :
    ¬ (i.repair pod).1.Sound := by
  obtain ⟨c, hc, hwithout⟩ := hlacks
  intro hsound
  have hsome : (i.lackingIn pod c).agent.isSome = true := by
    rw [isSome_agent_lackingIn h.find, hon, hwithout]
    rfl
  obtain ⟨a, ha⟩ := Option.isSome_iff_exists.mp hsome
  have hmounts : (i.repair pod).1.MountsAgent := by
    refine ⟨(i.lackingIn pod c).attach c, ?_,
      { name := Volume.binariesName, mountPath := a.installPath },
      ?_, .inl rfl⟩
    · rw [containers_repair]
      exact List.mem_map_of_mem hc
    · rw [Attachment.mounts_attach, Attachment.newMounts, ha]
      refine List.mem_append_right _ (List.mem_append_left _ (List.mem_append_left _ ?_))
      exact List.mem_cons_of_mem _ List.mem_cons_self
  exact Bool.false_ne_true ((equipped_repair h).setsUpAgent_iff.mp (hsound.2 hmounts))

end Injection

/-! ## 5. The life of a Pod -/

/-- What somebody else does to a Pod between admissions: volumes, init containers and the marker
stay, and no reserved volume is mounted that was not mounted before. -/
structure Edit (p p' : Pod) : Prop where
  volumes : p'.volumes = p.volumes
  initContainers : p'.initContainers = p.initContainers
  marker : p'.metadata.annotationMap.get? markerKey = p.metadata.annotationMap.get? markerKey
  mounts : ∀ c' ∈ p'.containers, ∀ m' ∈ c'.mounts, m'.name ∈ Volume.reserved →
    ∃ c ∈ p.containers, ∃ m ∈ c.mounts, m.name = m'.name

/-- The marker is left alone by edits. -/
theorem Edit.marksInjected {p p' : Pod} (e : Edit p p') :
    p'.metadata.annotationMap.marksInjected = p.metadata.annotationMap.marksInjected :=
  marksInjected_congr e.marker

theorem Edit.find? {p p' : Pod} (e : Edit p p') :
    InstallContainer.find? p' = InstallContainer.find? p := by
  rw [InstallContainer.find?_eq, InstallContainer.find?_eq, e.initContainers]

/-- A Pod that was never injected stays so under edits. -/
theorem Pod.Fresh.edited {p p' : Pod} (h : p.Fresh) (e : Edit p p') : p'.Fresh where
  unmarked := by
    rw [e.marksInjected]
    exact h.unmarked
  find := by
    rw [e.find?]
    exact h.find
  mounts := by
    intro c' hc' m' hm' hreserved
    rcases List.mem_append.mp hc' with hc' | hc'
    · obtain ⟨c, hc, m, hm, hname⟩ := e.mounts c' hc' m' hm' hreserved
      rw [← hname] at hreserved
      exact h.mounts c (List.mem_append_left _ hc) m hm hreserved
    · rw [e.initContainers] at hc'
      exact h.mounts c' (List.mem_append_right _ hc') m' hm' hreserved

/-- What was set up stays so under edits. -/
theorem Equipped.edited {agent enrichment : Bool} {p p' : Pod} {install : Container}
    (h : Equipped agent enrichment p install) (e : Edit p p') :
    Equipped agent enrichment p' install :=
  { h with
    marked := by
      rw [e.marksInjected]
      exact h.marked
    find := by
      rw [e.find?]
      exact h.find
    volumes := by
      rw [e.volumes]
      exact h.volumes
    init := by
      rw [e.initContainers]
      exact h.init }

theorem Contained.edited {agent enrichment : Bool} {p p' : Pod}
    (h : Contained agent enrichment p.containers) (e : Edit p p') :
    Contained agent enrichment p'.containers := by
  intro c' hc' m' hm' hreserved
  obtain ⟨c, hc, m, hm, hname⟩ := e.mounts c' hc' m' hm' hreserved
  rw [← hname] at hreserved ⊢
  exact h c hc m hm hreserved

/-- An admission that patched a Pod. -/
structure Patching where
  before : Pod
  features : Features
  after : Pod

/-- A patch gives out the agent in a Pod whose install container does not set it up. -/
structure Patching.Overreaches (q : Patching) : Prop where
  marked : q.before.metadata.annotationMap.marksInjected = true
  wanted : q.features.oneAgent = true
  missing : ¬ q.before.SetsUpAgent
  lacking : ∃ c ∈ q.before.containers, c.hasAgent = false

/-- In terms of what was set up: the agent is wanted and lacking, but was left out of the
injection. -/
theorem Equipped.overreaches_iff {agent enrichment : Bool} {install : Container} {q : Patching}
    (h : Equipped agent enrichment q.before install) :
    q.Overreaches ↔
      agent = false ∧ q.features.oneAgent = true ∧
        ∃ c ∈ q.before.containers, c.hasAgent = false := by
  constructor
  · rintro ⟨-, hwanted, hmissing, hlacking⟩
    rw [h.setsUpAgent_iff, Bool.not_eq_true] at hmissing
    exact ⟨hmissing, hwanted, hlacking⟩
  · rintro ⟨hagent, hwanted, hlacking⟩
    refine ⟨h.marked, hwanted, ?_, hlacking⟩
    rw [h.setsUpAgent_iff, hagent]
    exact Bool.false_ne_true

namespace Admission

open Dialogue

/-- The life of a Pod: edits by others and admissions, in any order, each admission with settings, a
namespace and a cluster of its own.  The patches are listed, the last one first. -/
inductive Life (start : Pod) : List Patching → Pod → Prop
  | start : Life start [] start
  | edited {patches : List Patching} {p p' : Pod} (life : Life start patches p) (edit : Edit p p') :
      Life start patches p'
  | patched {patches : List Patching} {p p' : Pod} (life : Life start patches p)
      (ws : WebhookSettings) (ns : String) (answer : (q : Query) → q.Answer) {found : Namespace}
      {config : WorkloadConfig} {warnings : List String}
      (bound : ((binding ns).run.run answer).1 = .ok (found, config))
      (verdict : ((decide ws ns p).run.run answer).1 = .ok (.patched p' warnings)) :
      Life start ({ before := p, features := features config p, after := p' } :: patches) p'

/-- A patch against fixed answers is an injection or a repair, under the config the namespace is
bound to. -/
theorem patched_cases {ws : WebhookSettings} {ns : String} {p p' : Pod}
    {answer : (q : Query) → q.Answer}
    {found : Namespace} {config : WorkloadConfig} {warnings : List String}
    (bound : ((binding ns).run.run answer).1 = .ok (found, config))
    (verdict : ((decide ws ns p).run.run answer).1 = .ok (.patched p' warnings)) :
    (p.metadata.annotationMap.marksInjected = false ∧ ∃ i : Injection,
        i.features = features config p ∧ i.features.any = true ∧ p' = i.inject p) ∨
      (p.metadata.annotationMap.marksInjected = true ∧ ∃ i : Injection,
        i.features = features config p ∧ p' = (i.repair p).1) := by
  have hsteps : (decide ws ns p).run.Steps (Fixed answer) [] (.ok (.patched p' warnings))
      ((decide ws ns p).run.run answer).2 :=
    steps_run_iff.mpr ⟨verdict.symm, rfl⟩
  obtain ⟨found', config', endpoint, asked, hadmitted, -, hpatched⟩ := steps_decide_patched hsteps
  obtain ⟨_, hbinding, -⟩ := hadmitted.asked
  have hconfig : config' = config := by
    have hboth := (steps_run_iff.mp hbinding).1.trans bound
    exact (Prod.mk.inj (Except.ok.inj hboth)).2
  subst hconfig
  rcases hpatched with ⟨hunmarked, workload, -, rfl⟩ | ⟨hmarked, -, rfl⟩
  · exact .inl ⟨hunmarked, { injection ws config' p endpoint with workload }, rfl,
      hadmitted.wanted, rfl⟩
  · exact .inr ⟨hmarked, injection ws config' p endpoint, rfl, rfl⟩

/-- Where a life has led to: nothing was injected yet, or something was set up; and as long as no
patch overreached, no more is mounted than that. -/
def Lived (patches : List Patching) (p : Pod) : Prop :=
  (patches = [] ∧ p.Fresh) ∨
    ∃ agent enrichment install, Equipped agent enrichment p install ∧
      ((∀ q ∈ patches, ¬ q.Overreaches) → Contained agent enrichment p.containers)

/-- **A first patch is sound**, and it leads on. -/
theorem lived_injected {q : Patching} {i : Injection} (hfresh : q.before.Fresh)
    (hany : i.features.any = true) (hafter : q.after = i.inject q.before) :
    Lived [q] q.after ∧ q.after.Sound := by
  have hequipped := Injection.equipped_inject hfresh hany
  have hcontained := Injection.contained_inject (i := i) hfresh
  rw [← hafter] at hequipped hcontained
  exact ⟨.inr ⟨_, _, _, hequipped, fun _ => hcontained⟩, hequipped.sound hcontained⟩

/-- **A repair is sound if nothing overreached before it and it does not**, and unsound if it
overreaches. -/
theorem lived_repaired {patches : List Patching} {q : Patching} {i : Injection}
    (hlived : Lived patches q.before)
    (hmarked : q.before.metadata.annotationMap.marksInjected = true)
    (hfeatures : i.features = q.features) (hafter : q.after = (i.repair q.before).1) :
    Lived (q :: patches) q.after ∧ (q.Overreaches → ¬ q.after.Sound) ∧
      ((∀ r ∈ q :: patches, ¬ r.Overreaches) → q.after.Sound) := by
  rcases hlived with ⟨-, hfresh⟩ | ⟨agent, enrichment, install, hequipped, hcontained⟩
  · rw [hfresh.unmarked] at hmarked
    exact absurd hmarked Bool.false_ne_true
  have hequipped' := Injection.equipped_repair (i := i) hequipped
  rw [← hafter] at hequipped'
  have hkept : (∀ r ∈ q :: patches, ¬ r.Overreaches) →
      Contained agent enrichment q.after.containers := by
    intro hnone
    have hbefore := hcontained fun r hr => hnone r (List.mem_cons_of_mem _ hr)
    rw [hafter]
    refine Injection.contained_repair hequipped hbefore fun hon hlacking => ?_
    rw [hfeatures] at hon
    refine Decidable.byContradiction fun hagent => hnone q List.mem_cons_self ?_
    exact hequipped.overreaches_iff.mpr ⟨Bool.not_eq_true _ ▸ hagent, hon, hlacking⟩
  refine ⟨.inr ⟨agent, enrichment, _, hequipped', hkept⟩, fun hover => ?_, fun hnone =>
    hequipped'.sound (hkept hnone)⟩
  obtain ⟨rfl, hon, hlacking⟩ := hequipped.overreaches_iff.mp hover
  rw [hafter]
  rw [← hfeatures] at hon
  exact Injection.not_sound_repair hequipped hon hlacking

/-- **One patch of a life.** -/
theorem lived_patched {patches : List Patching} {q : Patching} {ws : WebhookSettings} {ns : String}
    {answer : (q : Query) → q.Answer} {found : Namespace} {config : WorkloadConfig}
    {warnings : List String} (hlived : Lived patches q.before)
    (bound : ((binding ns).run.run answer).1 = .ok (found, config))
    (hfeatures : q.features = features config q.before)
    (verdict : ((decide ws ns q.before).run.run answer).1 = .ok (.patched q.after warnings)) :
    Lived (q :: patches) q.after ∧ (q.Overreaches → ¬ q.after.Sound) ∧
      ((∀ r ∈ q :: patches, ¬ r.Overreaches) → q.after.Sound) := by
  rcases patched_cases bound verdict with ⟨hunmarked, i, -, hany, hafter⟩ |
    ⟨hmarked, i, hi, hafter⟩
  · rcases hlived with ⟨rfl, hfresh⟩ | ⟨_, _, _, hequipped, -⟩
    · obtain ⟨hlived, hsound⟩ := lived_injected hfresh hany hafter
      refine ⟨hlived, fun hover => ?_, fun _ => hsound⟩
      exact absurd (hunmarked.symm.trans hover.marked) Bool.false_ne_true
    · exact absurd (hunmarked.symm.trans hequipped.marked) Bool.false_ne_true
  · exact lived_repaired hlived hmarked (hi.trans hfeatures.symm) hafter

/-- Over a life: patches that overreach are unsound, and if there are none all are sound. -/
theorem lived_of_life {start : Pod} (hfresh : start.Fresh) {patches : List Patching} {p : Pod}
    (h : Life start patches p) :
    Lived patches p ∧ (∀ q ∈ patches, q.Overreaches → ¬ q.after.Sound) ∧
      ((∀ q ∈ patches, ¬ q.Overreaches) → ∀ q ∈ patches, q.after.Sound) := by
  induction h with
  | start =>
    exact ⟨.inl ⟨rfl, hfresh⟩, fun _ hq => absurd hq List.not_mem_nil,
      fun _ _ hq => absurd hq List.not_mem_nil⟩
  | edited life edit ih =>
    obtain ⟨hlived, hrest⟩ := ih
    refine ⟨?_, hrest⟩
    rcases hlived with ⟨hnil, hfresh⟩ | ⟨agent, enrichment, install, hequipped, hcontained⟩
    · exact .inl ⟨hnil, hfresh.edited edit⟩
    · exact .inr ⟨agent, enrichment, install, hequipped.edited edit, fun hnone =>
        (hcontained hnone).edited edit⟩
  | @patched patches p p' life ws ns answer found config warnings bound verdict ih =>
    obtain ⟨hlived, hover, hsound⟩ := ih
    let q : Patching := { before := p, features := features config p, after := p' }
    obtain ⟨hlived', hover', hsound'⟩ := lived_patched (q := q) hlived bound rfl verdict
    refine ⟨hlived', ?_, ?_⟩
    · intro q hq
      rcases List.mem_cons.mp hq with rfl | hq
      · exact hover'
      · exact hover q hq
    · intro hnone q hq
      rcases List.mem_cons.mp hq with rfl | hq
      · exact hsound' hnone
      · exact hsound (fun r hr => hnone r (List.mem_cons_of_mem _ hr)) q hq

/-- **Mounts stay backed unless a repair overreaches.**  Over the whole life of a Pod that was fresh
at the start, every patch leaves every mount of a reserved volume backed and the agent attached only
where it is set up, exactly if no patch gives out the agent in a Pod whose install container does
not set it up. -/
theorem sound_iff_of_life {start : Pod} (hfresh : start.Fresh) {patches : List Patching} {p : Pod}
    (h : Life start patches p) :
    (∀ q ∈ patches, q.after.Sound) ↔ ∀ q ∈ patches, ¬ q.Overreaches := by
  obtain ⟨-, hover, hsound⟩ := lived_of_life hfresh h
  constructor
  · intro hall q hq hq'
    exact hover q hq hq' (hall q hq)
  · exact hsound

/-! ## 6. Two lives -/

/-- The config of the small cluster, with repairs. -/
def repairingConfig : WorkloadConfig :=
  { shopConfig with
    spec := { shopConfig.spec with features := { enableWebhookReinvocationPolicy := true } } }

/-- The small cluster, with a config that asks for repairs. -/
def repairingCluster : ClusterScript :=
  { shopCluster with configs := .ofList [("shop-config", .ok repairingConfig)] }

/-- What an admission there makes of a Pod. -/
def admitted (p : Pod) : Pod :=
  match ((decide shopSettings "shop" p).run.run repairingCluster.answer).1 with
  | .ok (.patched p' _) => p'
  | _ => p

/-- An admission there patches a Pod. -/
def patches (p : Pod) : Bool :=
  match ((decide shopSettings "shop" p).run.run repairingCluster.answer).1 with
  | .ok (.patched _ _) => true
  | _ => false

/-- The patch of an admission there. -/
def patching (p : Pod) : Patching :=
  { before := p, features := features repairingConfig p, after := admitted p }

/-- Lives go on with admissions there. -/
theorem Life.admitted {start p : Pod} {earlier : List Patching} (life : Life start earlier p)
    (h : patches p = true) : Life start (patching p :: earlier) (admitted p) := by
  have hverdict : ∃ warnings, ((decide shopSettings "shop" p).run.run repairingCluster.answer).1 =
      .ok (.patched (Admission.admitted p) warnings) := by
    unfold patches at h
    unfold Admission.admitted
    split at h
    · rename_i p' warnings hverdict
      rw [hverdict]
      exact ⟨warnings, rfl⟩
    · exact absurd h Bool.false_ne_true
  have hbound : ∃ found, ((binding "shop").run.run repairingCluster.answer).1 =
      .ok (found, repairingConfig) := ⟨_, rfl⟩
  obtain ⟨_, hverdict⟩ := hverdict
  obtain ⟨_, hbound⟩ := hbound
  exact .patched life shopSettings "shop" repairingCluster.answer hbound hverdict

/-- A sidecar is put in front. -/
def withMesh (p : Pod) : Pod := p.withContainers (Injection.mesh :: p.containers)

theorem edit_withMesh {p : Pod} (h : p.spec.isSome = true) : Edit p (withMesh p) where
  volumes := by
    rcases p with ⟨metadata, _ | spec, status⟩
    · exact absurd h Bool.false_ne_true
    · rfl
  initContainers := Pod.initContainers_withContainers p _
  marker := rfl
  mounts := by
    intro c' hc' m' hm' _
    rcases List.mem_cons.mp hc' with rfl | hc'
    · exact absurd hm' List.not_mem_nil
    · exact ⟨c', hc', m', hm', rfl⟩

/-- The agent is switched on. -/
def withAgentOn (p : Pod) : Pod :=
  let annotations := p.metadata.annotationMap.insert Capability.oneAgent.switchKey "true"
  { p with metadata := { p.metadata with annotations := some annotations } }

theorem edit_withAgentOn (p : Pod) : Edit p (withAgentOn p) where
  volumes := rfl
  initContainers := rfl
  marker := (Dict.get?_insert _ _ _ _).trans (if_neg (by decide))
  mounts := fun c' hc' m' hm' _ => ⟨c', hc', m', hm', rfl⟩

/-- The web application, injected, and then with a sidecar. -/
def meshPod : Pod := withMesh (admitted Injection.webPod)

/-- The sidecar is given an agent that was set up, so every patch of that life is sound. -/
theorem sound_of_mesh :
    Injection.webPod.Fresh ∧
      Life Injection.webPod [patching meshPod, patching Injection.webPod] (admitted meshPod) ∧
      ∀ q ∈ [patching meshPod, patching Injection.webPod], q.after.Sound := by
  have hfresh : Injection.webPod.Fresh := ⟨rfl, rfl, by decide⟩
  have hlife : Life Injection.webPod [patching meshPod, patching Injection.webPod]
      (admitted meshPod) :=
    ((Life.start.admitted (by decide +kernel)).edited (edit_withMesh (by decide +kernel))).admitted
      (by decide +kernel)
  refine ⟨hfresh, hlife, (sound_iff_of_life hfresh hlife).mpr ?_⟩
  intro q hq hover
  rcases List.mem_cons.mp hq with rfl | hq
  · exact hover.missing (by decide +kernel)
  · rw [List.mem_singleton.mp hq] at hover
    exact absurd hover.marked (by decide +kernel)

/-- The web application with the agent switched off. -/
def agentOffPod : Pod :=
  { Injection.webPod with
    metadata := { annotations := some (.ofList [(Capability.oneAgent.switchKey, "false")]) } }

/-- The same, injected without the agent; then somebody switches the agent on. -/
def agentOnPod : Pod := withAgentOn (admitted agentOffPod)

/-- **Mounts do not always stay backed.**  The agent that is switched on late is given to the web
application: its volumes are not declared, and nothing sets it up. -/
theorem unsound_of_agentOn :
    agentOffPod.Fresh ∧
      Life agentOffPod [patching agentOnPod, patching agentOffPod] (admitted agentOnPod) ∧
      ¬ (admitted agentOnPod).Backed ∧ (admitted agentOnPod).MountsAgent ∧
      ¬ (admitted agentOnPod).SetsUpAgent := by
  have hlife : Life agentOffPod [patching agentOnPod, patching agentOffPod] (admitted agentOnPod) :=
    ((Life.start.admitted (by decide +kernel)).edited (edit_withAgentOn _)).admitted
      (by decide +kernel)
  exact ⟨⟨rfl, rfl, by decide⟩, hlife, by decide +kernel, by decide +kernel, by decide +kernel⟩

end Admission

end InjectionWebhook
