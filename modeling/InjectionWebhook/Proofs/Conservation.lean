/-
# What an injection keeps

An injection adds to a Pod and takes nothing away.  `Injection.Conserves` says so for the Pod as a
whole, part by part: of the metadata only the annotations change, and only those that record the
injection; the status stays; of the specification only the three lists change, volumes and init
containers at their ends (`Volume.Adds`, `InstallContainer.Counts`), and the application containers
one by one, each at the ends of its variables and mounts.  `conserves_inject` holds of every
injection and every Pod, with or without specification.
-/
import InjectionWebhook.Proofs.Marker
import InjectionWebhook.Proofs.RepairReach

namespace InjectionWebhook

/-! ## 1. Annotations -/

/-- Annotations that record an injection, and otherwise are as they were. -/
structure Features.RecordedOver (f : Features) (before after : Dict String) : Prop where
  marker : after.get? "beacon.dev/injected" = some f.rendering
  capabilities : ∀ c : Capability,
    after.get? c.record = some (if f.enables c then "true" else "false")
  others : ∀ key, key ≠ "beacon.dev/injected" → (∀ c : Capability, key ≠ c.record) →
    after.get? key = before.get? key

/-- **The records of an injection change no other annotation.** -/
theorem Features.recordedOver_records (f : Features) (d : Dict String) :
    f.RecordedOver d (d.extend f.records) where
  marker := by
    rw [← f.marker_eq]
    exact get?_marker_records d f
  capabilities := get?_record_records d f
  others key hmarker hcapabilities := by
    refine get?_records (fun hmem => ?_) d f
    simp only [recordKeys, List.mem_cons, List.not_mem_nil, or_false] at hmem
    rcases hmem with hkey | hkey | hkey
    · exact hmarker hkey
    · exact hcapabilities .dataIngest hkey
    · exact hcapabilities .oneAgent hkey

/-! ## 2. Volumes -/

/-- Some volumes are added at the end: one, three or five, with different reserved names. -/
structure Volume.Adds (before after added : List Volume) : Prop where
  eq : after = before ++ added
  length : added.length ∈ [1, 3, 5]
  reserved : ∀ v ∈ added, v.name ∈ Volume.reserved
  nodup : (added.map (·.name)).Nodup

/-- **An injection adds one volume, and two for each capability.** -/
theorem Injection.adds_volumes (i : Injection) (before : List Volume) :
    Volume.Adds before (before ++ i.volumes i.attachment) (i.volumes i.attachment) := by
  have hnames := i.map_name_volumes i.attachment
  refine ⟨rfl, ?_, fun v hv => ?_, ?_⟩
  · rw [← List.length_map (·.name), hnames]
    cases i.attachment.agent.isSome <;> cases i.attachment.enrichment.isSome <;> decide
  · have hname : v.name ∈ (i.volumes i.attachment).map (·.name) := List.mem_map_of_mem hv
    rw [hnames] at hname
    have hall : v.name ∈ Volume.namesFor true true :=
      Volume.mem_namesFor_of_le (fun _ => rfl) (fun _ => rfl) hname
    -- With both capabilities, the names are the reserved ones.
    exact hall
  · rw [hnames]
    cases i.attachment.agent.isSome <;> cases i.attachment.enrichment.isSome <;> decide

/-! ## 3. The install container -/

namespace InstallContainer

/-- The install container counts containers, and where the agent takes part it ends with an entry
for each of them, in order; it has no other entries. -/
structure Counts (install : Container) (agent : Bool) (cs : List Container) : Prop where
  name : install.name = "install-beacon"
  count : install.envVars.filter (fun e => e.name = "CONTAINERS_COUNT") =
    [.plain "CONTAINERS_COUNT" (toString cs.length)]
  entries : ∃ front, (∀ e ∈ front, ¬ NamesEntry e.name) ∧
    install.envVars = front ++
      if agent then
        (cs.zipIdx 1).flatMap fun (c, n) =>
          [ .plain ("CONTAINER_" ++ toString n ++ "_NAME") c.name,
            .plain ("CONTAINER_" ++ toString n ++ "_IMAGE") (c.image.getD "") ]
      else []

/-- The count stands in front, and nothing behind it has its name. -/
theorem name_ne_countEnv {i : Injection} {a : Attachment} {m : ObjectMeta} {cs : List Container}
    {e : EnvVar} (h : e ∈ i.fixedVars a m ++ Injection.freshEntries a cs) : e.name ≠ countEnv := by
  intro hname
  rcases List.mem_append.mp h with h | h
  · have hmem := Injection.name_mem_fixedNames h
    rw [hname] at hmem
    exact absurd hmem (by decide)
  · unfold Injection.freshEntries at h
    split at h
    · have hentry := Injection.isEntryName_of_mem_allEntriesFrom h
      rw [hname, isEntryName_countEnv] at hentry
      exact Bool.false_ne_true hentry
    · exact absurd h List.not_mem_nil

/-- **A fresh install container counts the containers of the Pod.** -/
theorem counts_installContainer (i : Injection) (a : Attachment) (pod : Pod) :
    Counts (i.installContainer a pod) a.agent.isSome pod.containers where
  name := Injection.name_installContainer i a pod
  count := by
    change (i.installContainer a pod).envVars.filter (fun e => e.name = countEnv) =
      [.plain countEnv (toString pod.containers.length)]
    rw [Injection.envVars_installContainer, List.cons_append, List.filter_cons_of_pos]
    · rw [List.filter_eq_nil_iff.mpr fun e he hname =>
        name_ne_countEnv he (of_decide_eq_true hname)]
    · exact decide_eq_true rfl
  entries := by
    refine ⟨.plain countEnv (toString pod.containers.length) :: i.fixedVars a pod.metadata,
      fun e he hentry => ?_, ?_⟩
    · rw [← isEntryName_iff] at hentry
      rcases List.mem_cons.mp he with rfl | he
      · exact absurd (isEntryName_countEnv.symm.trans hentry) Bool.false_ne_true
      · rw [Injection.isEntryName_of_mem_fixedVars he] at hentry
        exact Bool.false_ne_true hentry
    · rw [Injection.envVars_installContainer, Injection.freshEntries, allEntriesFrom_eq_flatMap]

end InstallContainer

/-! ## 4. The Pod -/

namespace Injection

/-- A Pod with all that another one has, and with what an injection adds to it. -/
structure Conserves (i : Injection) (pod q : Pod) : Prop where
  metadata : q.metadata = { pod.metadata with annotations := q.metadata.annotations }
  annotations : i.features.RecordedOver pod.metadata.annotationMap q.metadata.annotationMap
  status : q.status = pod.status
  spec : q.spec = some
    { pod.spec.getD {} with
      containers := q.containers
      initContainers := some q.initContainers
      volumes := some q.volumes }
  volumes : ∃ added, Volume.Adds pod.volumes q.volumes added
  initContainers : ∃ install, q.initContainers = pod.initContainers ++ [install] ∧
    InstallContainer.Counts install i.attachment.agent.isSome pod.containers
  containers : List.Forall₂ (fun c c' => c'.Extends c) pod.containers q.containers

/-- **An injection keeps all there is of a Pod.** -/
theorem conserves_inject (i : Injection) (pod : Pod) : i.Conserves pod (i.inject pod) where
  metadata := rfl
  annotations := by
    rw [annotationMap_inject]
    exact i.features.recordedOver_records _
  status := rfl
  spec := by
    rw [containers_inject, initContainers_inject, volumes_inject, ← getD_initContainers,
      ← getD_volumes]
    rcases pod with ⟨metadata, _ | spec, status⟩ <;> rfl
  volumes := ⟨_, by
    rw [volumes_inject]
    exact i.adds_volumes pod.volumes⟩
  initContainers :=
    ⟨_, initContainers_inject i pod, InstallContainer.counts_installContainer i _ pod⟩
  containers := forall₂_containers_inject (Attachment.extends_attach _)

end Injection

end InjectionWebhook
