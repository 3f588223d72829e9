/-
# What a repair does

`fst_repair` says in one equation what `Injection.repair` leaves of a Pod: the application
containers are given what they lack, the install container is synced if the agent takes part, and
nothing else changes.  The views of the repaired Pod follow (`containers_repair`,
`initContainers_repair`, `volumes_repair`, `metadata_repair`).

A container that was given an attachment lacks nothing of it (`isEmpty_lacking_attach`), and one
that carries neither capability lacks all of it (`lacking_of_untouched`).  A Pod whose containers
lack nothing and whose install container is up to date is left as it is (`repair_of_settled`).
-/
import InjectionWebhook.Injection.Repair
import InjectionWebhook.Proofs.InjectedPod

namespace InjectionWebhook

/-! ## 1. Replacing the first element -/

section ReplaceFirst

variable {α : Type} {p : α → Bool} {f : α → α}

theorem replaceFirst_of_find?_eq_none : ∀ {l : List α}, l.find? p = none → replaceFirst p f l = l
  | [], _ => rfl
  | a :: l, h => by
    obtain ⟨ha, hl⟩ : p a = false ∧ l.find? p = none := by
      cases ha : p a <;> simp_all
    rw [replaceFirst, ha, replaceFirst_of_find?_eq_none hl]
    rfl

/-- Only the value of the function at the element that is found counts. -/
theorem replaceFirst_congr {g : α → α} {x : α} : ∀ {l : List α}, l.find? p = some x → f x = g x →
    replaceFirst p f l = replaceFirst p g l
  | [], h, _ => absurd h (by simp)
  | a :: l, h, hfg => by
    unfold replaceFirst
    cases ha : p a with
    | true =>
      have hax : a = x := by simpa [List.find?_cons, ha] using h
      rw [hax, hfg]; rfl
    | false =>
      have hl : l.find? p = some x := by simpa [List.find?_cons, ha] using h
      rw [replaceFirst_congr hl hfg]; rfl

theorem replaceFirst_of_fixed {x : α} : ∀ {l : List α}, l.find? p = some x → f x = x →
    replaceFirst p f l = l
  | [], h, _ => absurd h (by simp)
  | a :: l, h, hf => by
    unfold replaceFirst
    cases ha : p a with
    | true =>
      have hax : a = x := by simpa [List.find?_cons, ha] using h
      rw [hax, hf]; rfl
    | false =>
      have hl : l.find? p = some x := by simpa [List.find?_cons, ha] using h
      rw [replaceFirst_of_fixed hl hf]; rfl

theorem replaceFirst_append_cons {l : List α} {x : α} (h : l.find? p = none) (hx : p x = true)
    (r : List α) : replaceFirst p f (l ++ x :: r) = l ++ f x :: r := by
  induction l with
  | nil => simp [replaceFirst, hx]
  | cons a l ih =>
    obtain ⟨ha, hl⟩ : p a = false ∧ l.find? p = none := by
      cases ha : p a <;> simp_all
    rw [List.cons_append, replaceFirst, ha, ih hl]
    rfl

/-- What replaces the first element is found where that was, if it has the property too. -/
theorem find?_replaceFirst {x : α} : ∀ {l : List α}, l.find? p = some x → p (f x) = true →
    (replaceFirst p f l).find? p = some (f x)
  | [], h, _ => absurd h (by simp)
  | a :: l, h, hf => by
    unfold replaceFirst
    cases ha : p a with
    | true =>
      have hax : a = x := by simpa [List.find?_cons, ha] using h
      rw [if_pos rfl, hax, List.find?_cons_of_pos hf]
    | false =>
      have hl : l.find? p = some x := by simpa [List.find?_cons, ha] using h
      rw [if_neg Bool.false_ne_true, List.find?_cons_of_neg (by simp [ha]),
        find?_replaceFirst hl hf]

theorem mem_replaceFirst {x y : α} : ∀ {l : List α}, l.find? p = some x →
    y ∈ replaceFirst p f l → y ∈ l ∨ y = f x
  | [], h, _ => absurd h (by simp)
  | a :: l, h, hy => by
    unfold replaceFirst at hy
    cases ha : p a with
    | true =>
      have hax : a = x := by simpa [List.find?_cons, ha] using h
      rw [ha, if_pos rfl, hax] at hy
      rcases List.mem_cons.mp hy with rfl | hy
      · exact .inr rfl
      · exact .inl (List.mem_cons_of_mem _ hy)
    | false =>
      have hl : l.find? p = some x := by simpa [List.find?_cons, ha] using h
      rw [ha, if_neg Bool.false_ne_true] at hy
      rcases List.mem_cons.mp hy with rfl | hy
      · exact .inl List.mem_cons_self
      · exact (mem_replaceFirst hl hy).imp (List.mem_cons_of_mem _) id

end ReplaceFirst

namespace Injection

/-! ## 2. What a container lacks -/

/-- **A container that was given an attachment lacks nothing of it.** -/
theorem isEmpty_lacking_attach (a : Attachment) (installed : Bool) (c : Container) :
    (lacking a installed (a.attach c)).isEmpty = true := by
  unfold lacking Attachment.isEmpty
  rw [Attachment.agent_only, Attachment.enrichment_only, Attachment.hasAgent_attach,
    Attachment.hasEnrichment_attach]
  cases a.agent <;> cases a.enrichment <;> simp

/-- **A container that carries neither capability lacks all of an attachment.** -/
theorem lacking_of_untouched {c : Container} (hagent : c.hasAgent = false)
    (henrichment : c.hasEnrichment = false) (a : Attachment) : lacking a true c = a := by
  obtain ⟨metadata, agent, enrichment⟩ := a
  cases agent <;> cases enrichment <;>
    simp [lacking, hagent, henrichment, Attachment.only]

/-- An attachment that gives nothing lacks nothing. -/
theorem isEmpty_lacking_of_isEmpty {a : Attachment} (h : a.isEmpty = true) (installed : Bool)
    (c : Container) : (lacking a installed c).isEmpty = true := by
  obtain ⟨metadata, agent, enrichment⟩ := a
  cases agent <;> cases enrichment <;> simp_all [lacking, Attachment.only, Attachment.isEmpty]

/-! ## 3. The repaired Pod -/

/-- What a repair wants every container to have. -/
def repairAttachment (i : Injection) (pod : Pod) : Attachment := (i.forRepair pod).attachment

theorem isSome_agent_attachment (i : Injection) :
    i.attachment.agent.isSome = i.features.oneAgent := by
  cases h : i.features.oneAgent <;> simp [attachment, h]

/-- Whether a repair is with the agent does not depend on what is read back. -/
theorem isSome_agent_repairAttachment (i : Injection) (pod : Pod) :
    (i.repairAttachment pod).agent.isSome = i.features.oneAgent :=
  isSome_agent_attachment (i.forRepair pod)

/-- What a container of a Pod lacks. -/
def lackingIn (i : Injection) (pod : Pod) (c : Container) : Attachment :=
  lacking (i.repairAttachment pod) (InstallContainer.find? pod).isSome c

/-- The application containers after a repair. -/
def repairedContainers (i : Injection) (pod : Pod) : List Container :=
  pod.containers.map fun c => (i.lackingIn pod c).attach c

/-- The init containers after a repair. -/
def repairedInit (i : Injection) (pod : Pod) (cs : List Container) : List Container :=
  if (i.repairAttachment pod).agent.isSome then
    replaceFirst (fun c => decide (c.name = InstallContainer.name))
      (fun install => InstallContainer.sync install (i.repairedContainers pod)) cs
  else cs

theorem repairedContainers_of_isEmpty {i : Injection} {pod : Pod}
    (h : (i.repairAttachment pod).isEmpty = true) : i.repairedContainers pod = pod.containers := by
  refine List.map_id'' (fun c => ?_) _
  exact Attachment.attach_of_isEmpty (isEmpty_lacking_of_isEmpty h _ c) c

theorem repairedInit_of_isEmpty {i : Injection} {pod : Pod}
    (h : (i.repairAttachment pod).isEmpty = true) : i.repairedInit pod = id := by
  have hagent : (i.repairAttachment pod).agent.isSome = false := by
    rw [Attachment.isEmpty, Bool.and_eq_true, Option.isNone_iff_eq_none] at h
    rw [h.1]; rfl
  funext cs
  rw [repairedInit, hagent]; rfl

/-- The init containers stay as they are unless writing the entries anew makes a difference. -/
theorem repairedInit_of_synced {i : Injection} {pod : Pod} {spec : PodSpec}
    (hspec : pod.spec = some spec)
    (hsynced : (i.repairAttachment pod).agent.isSome = true → ∀ install,
      InstallContainer.find? pod = some install →
        InstallContainer.sync install (i.repairedContainers pod) = install) :
    spec.initContainers.map (i.repairedInit pod) = spec.initContainers := by
  rw [InstallContainer.find?, hspec, Option.bind_some] at hsynced
  cases hinit : spec.initContainers with
  | none => rfl
  | some cs =>
    rw [hinit, Option.bind_some] at hsynced
    rw [Option.map_some, repairedInit]
    cases hagent : (i.repairAttachment pod).agent.isSome with
    | false => rfl
    | true =>
      refine congrArg some ((if_pos rfl).trans ?_)
      cases hfind : cs.find? (fun c => decide (c.name = InstallContainer.name)) with
      | none => exact replaceFirst_of_find?_eq_none hfind
      | some install => exact replaceFirst_of_fixed hfind (hsynced hagent install hfind)

/-- With the agent, the first install container is the one that is written anew. -/
theorem repairedInit_of_find? {i : Injection} {pod : Pod} {spec : PodSpec} {install : Container}
    (hspec : pod.spec = some spec) (hagent : (i.repairAttachment pod).agent.isSome = true)
    (hfind : InstallContainer.find? pod = some install) :
    spec.initContainers.map (i.repairedInit pod) = spec.initContainers.map
      (replaceFirst (fun c => decide (c.name = InstallContainer.name))
        fun _ => InstallContainer.sync install (i.repairedContainers pod)) := by
  cases hcs : spec.initContainers with
  | none => rfl
  | some cs =>
    rw [InstallContainer.find?, hspec, Option.bind_some, hcs, Option.bind_some] at hfind
    rw [Option.map_some, Option.map_some, repairedInit, hagent, if_pos rfl]
    exact congrArg some (replaceFirst_congr hfind rfl)

/-- Nothing is repaired where there is nothing to give. -/
theorem repair_of_isEmpty {i : Injection} {pod : Pod}
    (h : (i.repairAttachment pod).isEmpty = true) : i.repair pod = (pod, false) := by
  have h' : (i.forRepair pod).attachment.isEmpty = true := h
  simp only [repair, h']

/-- A Pod without specification has nothing to repair. -/
theorem repair_of_spec_eq_none {i : Injection} {pod : Pod} (h : pod.spec = none) :
    i.repair pod = (pod, false) := by
  cases hempty : (i.forRepair pod).attachment.isEmpty <;> simp only [repair, h, hempty]

/-- Where there is something to give, every container gets what it lacks, and the install container
is synced if the agent takes part. -/
theorem repair_of_not_isEmpty {i : Injection} {pod : Pod} {spec : PodSpec}
    (hspec : pod.spec = some spec) (h : (i.repairAttachment pod).isEmpty = false) :
    i.repair pod =
      ({ pod with
          spec := some
            { spec with
              containers := i.repairedContainers pod
              initContainers := spec.initContainers.map (i.repairedInit pod) } },
        pod.containers.any (fun c => !(i.lackingIn pod c).isEmpty) ||
          (i.repairAttachment pod).agent.isSome &&
            (InstallContainer.find? pod).any
              fun install => InstallContainer.isStale install (i.repairedContainers pod)) := by
  have h' : (i.forRepair pod).attachment.isEmpty = false := h
  have hcontainers : pod.containers = spec.containers := by rw [Pod.containers, hspec]; rfl
  have hlacking : ∀ c, lacking (i.forRepair pod).attachment (InstallContainer.find? pod).isSome c =
      i.lackingIn pod c := fun _ => rfl
  have hrepaired : spec.containers.map (fun c => (i.lackingIn pod c).attach c) =
      i.repairedContainers pod := by
    rw [← hcontainers]; rfl
  rw [hcontainers]
  cases hagent : (i.repairAttachment pod).agent.isSome with
  | false =>
    have hagent' : (i.forRepair pod).attachment.agent.isSome = false := hagent
    have hinit : i.repairedInit pod = id := by
      funext cs; rw [repairedInit, hagent]; rfl
    simp only [repair, hspec, h', hlacking, hrepaired, hagent', hinit, Option.map_id_fun, id,
      Bool.false_and, Bool.or_false]
  | true =>
    have hagent' : (i.forRepair pod).attachment.agent.isSome = true := hagent
    cases hfind : InstallContainer.find? pod with
    | none =>
      rw [hfind] at hlacking
      have hinit : spec.initContainers.map (i.repairedInit pod) = spec.initContainers :=
        repairedInit_of_synced hspec fun _ install hsome => by
          rw [hfind] at hsome; exact absurd hsome (by simp)
      simp only [repair, hspec, h', hagent', hfind, hlacking, hrepaired, hinit, Option.any_none,
        Bool.and_false, Bool.or_false]
    | some install =>
      have hinit := repairedInit_of_find? hspec hagent hfind
      rw [hfind] at hlacking
      simp only [repair, hspec, h', hagent', hfind, hlacking, hrepaired, hinit, Option.any_some,
        Bool.true_and]

/-- **A repair in one equation**, whatever there is to give. -/
theorem fst_repair (i : Injection) (pod : Pod) :
    (i.repair pod).1 =
      { pod with
        spec := pod.spec.map fun spec =>
          { spec with
            containers := i.repairedContainers pod
            initContainers := spec.initContainers.map (i.repairedInit pod) } } := by
  cases hspec : pod.spec with
  | none =>
    rw [repair_of_spec_eq_none hspec, Option.map_none, ← hspec]
  | some spec =>
    cases hempty : (i.repairAttachment pod).isEmpty with
    | true =>
      have hcontainers : pod.containers = spec.containers := by rw [Pod.containers, hspec]; rfl
      rw [repair_of_isEmpty hempty, repairedContainers_of_isEmpty hempty,
        repairedInit_of_isEmpty hempty, hcontainers, Option.map_id, Option.map_some]
      exact congrArg (fun spec => ({ pod with spec } : Pod)) hspec
    | false => rw [repair_of_not_isEmpty hspec hempty, Option.map_some]

/-! ## 4. The views after a repair -/

@[simp] theorem metadata_repair (i : Injection) (pod : Pod) :
    (i.repair pod).1.metadata = pod.metadata := by
  rw [fst_repair]

@[simp] theorem containers_repair (i : Injection) (pod : Pod) :
    (i.repair pod).1.containers = i.repairedContainers pod := by
  rw [fst_repair]
  rcases pod with ⟨metadata, _ | spec, status⟩ <;> rfl

@[simp] theorem initContainers_repair (i : Injection) (pod : Pod) :
    (i.repair pod).1.initContainers = i.repairedInit pod pod.initContainers := by
  rw [fst_repair]
  rcases pod with ⟨metadata, _ | ⟨containers, _ | initContainers⟩, status⟩
  · simp [Pod.initContainers, repairedInit, replaceFirst]
  · simp [Pod.initContainers, repairedInit, replaceFirst]
  · rfl

@[simp] theorem volumes_repair (i : Injection) (pod : Pod) :
    (i.repair pod).1.volumes = pod.volumes := by
  rw [fst_repair]
  rcases pod with ⟨metadata, _ | spec, status⟩ <;> rfl

/-- What becomes of the install container: it is synced if the agent takes part. -/
def repairedInstall (i : Injection) (pod : Pod) (install : Container) : Container :=
  if (i.repairAttachment pod).agent.isSome then
    InstallContainer.sync install (i.repairedContainers pod)
  else install

/-- A repair keeps what was recorded of the injection. -/
theorem findEnv?_repairedInstall {i : Injection} {pod : Pod} {name : String}
    (hentry : InstallContainer.isEntryName name = false)
    (hcount : name ≠ InstallContainer.countEnv) (install : Container) :
    (i.repairedInstall pod install).findEnv? name = install.findEnv? name := by
  unfold repairedInstall
  split
  · exact InstallContainer.findEnv?_sync hentry hcount install _
  · rfl

/-- **The install container stays where it is.** -/
theorem find?_repair {i : Injection} {pod : Pod} {install : Container}
    (h : InstallContainer.find? pod = some install) :
    InstallContainer.find? (i.repair pod).1 = some (i.repairedInstall pod install) := by
  rw [InstallContainer.find?_eq] at h ⊢
  rw [initContainers_repair, repairedInit, repairedInstall]
  split
  · have hname := List.find?_some h
    exact find?_replaceFirst h hname
  · exact h

/-- Every init container was there before, or is the install container. -/
theorem mem_initContainers_repair {i : Injection} {pod : Pod} {install c : Container}
    (h : InstallContainer.find? pod = some install) (hc : c ∈ (i.repair pod).1.initContainers) :
    c ∈ pod.initContainers ∨ c = i.repairedInstall pod install := by
  rw [InstallContainer.find?_eq] at h
  rw [initContainers_repair, repairedInit] at hc
  rw [repairedInstall]
  split at hc
  · rename_i hagent
    rw [if_pos hagent]
    exact mem_replaceFirst h hc
  · exact .inl hc

/-- What a container lacks of the agent: the agent has to be on, and the container without it. -/
theorem isSome_agent_lackingIn {i : Injection} {pod : Pod} {install : Container}
    (h : InstallContainer.find? pod = some install) (c : Container) :
    (i.lackingIn pod c).agent.isSome = (i.features.oneAgent && !c.hasAgent) := by
  rw [lackingIn, lacking, Attachment.agent_only, h]
  cases c.hasAgent <;> simp [isSome_agent_repairAttachment]

/-- **After a repair with the agent every container carries it**, if there is an install
container. -/
theorem hasAgent_of_mem_repairedContainers {i : Injection} {pod : Pod} {install c : Container}
    (hagent : i.features.oneAgent = true) (hfind : InstallContainer.find? pod = some install)
    (hc : c ∈ i.repairedContainers pod) : c.hasAgent = true := by
  obtain ⟨d, -, rfl⟩ := List.mem_map.mp hc
  rw [Attachment.hasAgent_attach, isSome_agent_lackingIn hfind, hagent]
  cases d.hasAgent <;> rfl

/-! ## 5. Repairs that change nothing -/

/-- **A settled Pod is left as it is**: no container lacks anything, and the entries of the install
container are up to date. -/
theorem repair_of_settled {i : Injection} {pod : Pod}
    (hcontainers : ∀ c ∈ pod.containers, (i.lackingIn pod c).isEmpty = true)
    (hinstall : (i.repairAttachment pod).agent.isSome = true → ∀ install,
      InstallContainer.find? pod = some install →
        InstallContainer.sync install pod.containers = install) :
    i.repair pod = (pod, false) := by
  cases hspec : pod.spec with
  | none => exact repair_of_spec_eq_none hspec
  | some spec =>
    cases hempty : (i.repairAttachment pod).isEmpty with
    | true => exact repair_of_isEmpty hempty
    | false =>
      have hsame : i.repairedContainers pod = pod.containers :=
        (List.map_congr_left fun c hc => Attachment.attach_of_isEmpty (hcontainers c hc) c).trans
          (List.map_id _)
      have hgiven : pod.containers.any (fun c => !(i.lackingIn pod c).isEmpty) = false := by
        refine List.any_eq_false.mpr fun c hc => ?_
        rw [hcontainers c hc]
        exact Bool.false_ne_true
      have hsynced : (i.repairAttachment pod).agent.isSome = true → ∀ install,
          InstallContainer.find? pod = some install →
            InstallContainer.sync install (i.repairedContainers pod) = install := by
        rw [hsame]; exact hinstall
      have hstale : ((i.repairAttachment pod).agent.isSome &&
          (InstallContainer.find? pod).any
            fun install =>
              InstallContainer.isStale install (i.repairedContainers pod)) = false := by
        cases hagent : (i.repairAttachment pod).agent.isSome with
        | false => rfl
        | true =>
          cases hfind : InstallContainer.find? pod with
          | none => rfl
          | some install =>
            rw [Option.any_some, InstallContainer.isStale, hsynced hagent install hfind]
            simp
      have hcs : spec.containers = pod.containers := by rw [Pod.containers, hspec]; rfl
      rw [repair_of_not_isEmpty hspec hempty, hgiven, hstale, hsame,
        repairedInit_of_synced hspec hsynced, ← hcs]
      exact Prod.ext (congrArg (fun spec => ({ pod with spec } : Pod)) hspec.symm) rfl

/-- What a repair depends on beside the Pod: neither the workload that is passed in nor the
driver. -/
theorem repair_of_workload_of_driver (i : Injection) (workload : Option Workload) (driver : String)
    (pod : Pod) : ({ i with workload, driver } : Injection).repair pod = i.repair pod := rfl

/-- **A repair wants what the injection wanted**, if the workload was recorded as it was. -/
theorem repairAttachment_of_recorded {i : Injection} {pod : Pod} {install : Container}
    (hfind : InstallContainer.find? pod = some install)
    (hworkload : InstallContainer.workload? install = i.attachment.enrichment.map (·.workload)) :
    i.repairAttachment pod = i.attachment := by
  have hrecorded : (i.forRepair pod).workload = i.attachment.enrichment.map (·.workload) := by
    rw [forRepair, hfind, Option.bind_some, hworkload]
  obtain ⟨config, features, settings, driver, metadata, workload, endpoint⟩ := i
  cases workload <;> cases endpoint <;> cases hingest : features.dataIngest <;>
    simp_all [repairAttachment, attachment, forRepair]

end Injection
end InjectionWebhook
