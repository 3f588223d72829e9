/-
# Repairs agree with fresh injections

Injecting a Pod and repairing it are two pieces of code.  Here they are shown to produce one Pod:
take an injected Pod, let somebody else take containers out, put new ones in and change their order,
repair it, and so on for any number of rounds (`Rounds`).  After every round the Pod is the one a
fresh injection makes of the original Pod with the bare containers in that order; only the security
context of the install container is still that of the first injection (`eq_inject_of_rounds`).

The Pod that rounds arrive at is `Injection.injectedAs`; `repair_injectedAs` is the step, and the
rest is induction on the rounds.  The layout of the install container's variables carries the step
(`envVars_sync_of_layout`).
-/
import InjectionWebhook.Proofs.Repair

namespace InjectionWebhook

/-! ## 1. Rounds of edits and repairs -/

/-- A container as nobody injected it. -/
structure Container.Untouched (c : Container) : Prop where
  agent : c.hasAgent = false
  enrichment : c.hasEnrichment = false

/-- The init containers with the name of the install container get a security context. -/
def Pod.withInstallSecurity (p : Pod) (security : Option SecurityContext) : Pod :=
  { p with
    spec := p.spec.map fun spec =>
      { spec with
        initContainers := spec.initContainers.map (List.map fun c =>
          if c.name = InstallContainer.name then { c with securityContext := security } else c) } }

namespace Injection

/-- The containers somebody else leaves behind, each with its bare form: a container of the Pod with
the bare one at its position, or a new container that nobody injected. -/
def Mixes (current bare : List Container) (mix : List (Container × Container)) : Prop :=
  ∀ m ∈ mix, m ∈ current.zip bare ∨ m.1.Untouched ∧ m.2 = m.1

/-- The Pods that an injection and any number of rounds lead to, each with the bare form of its
containers.  In a round somebody else replaces the containers, and then the Pod is repaired. -/
inductive Rounds (i : Injection) (pod : Pod) : List Container → Pod → Prop
  | injected : Rounds i pod pod.containers (i.inject pod)
  | repaired {bare : List Container} {p : Pod} (rounds : Rounds i pod bare p)
      (mix : List (Container × Container)) (mixes : Mixes p.containers bare mix)
      (workload : Option Workload) (driver : String) :
      Rounds i pod (mix.map (·.2))
        (({ i with workload, driver } : Injection).repair (p.withContainers (mix.map (·.1)))).1

/-! ## 2. The Pod that rounds arrive at -/

/-- The install container for a Pod with the given bare containers, with a security context. -/
def installAs (i : Injection) (pod : Pod) (security : Option SecurityContext)
    (bare : List Container) : Container :=
  { i.installContainer i.attachment (pod.withContainers bare) with securityContext := security }

/-- The Pod that a fresh injection makes with the given bare containers, with a security context for
the install container. -/
def injectedAs (i : Injection) (pod : Pod) (security : Option SecurityContext)
    (bare : List Container) : Pod :=
  { pod with
    metadata := (i.inject pod).metadata
    spec := some
      { pod.spec.getD {} with
        volumes := some (pod.volumes ++ i.volumes i.attachment)
        containers := bare.map i.attachment.attach
        initContainers := some (pod.initContainers ++ [i.installAs pod security bare]) } }

variable {i : Injection} {pod : Pod} {security : Option SecurityContext}

theorem getD_volumes (p : Pod) : ((p.spec.getD {}).volumes).getD [] = p.volumes := by
  rcases p with ⟨metadata, _ | spec, status⟩ <;> rfl

theorem getD_initContainers (p : Pod) :
    ((p.spec.getD {}).initContainers).getD [] = p.initContainers := by
  rcases p with ⟨metadata, _ | spec, status⟩ <;> rfl

/-- Init containers with other names keep their security context. -/
theorem map_security_of_find?_eq_none (hfind : InstallContainer.find? pod = none) :
    pod.initContainers.map (fun c =>
      if c.name = InstallContainer.name then { c with securityContext := security } else c) =
        pod.initContainers := by
  rw [InstallContainer.find?_eq] at hfind
  refine (List.map_congr_left fun c hc => ?_).trans (List.map_id _)
  exact if_neg fun hname => List.find?_eq_none.mp hfind c hc (decide_eq_true hname)

/-- **The Pod that rounds arrive at is freshly injected**, but for the security context. -/
theorem injectedAs_eq (hfind : InstallContainer.find? pod = none) (bare : List Container) :
    i.injectedAs pod security bare =
      (i.inject (pod.withContainers bare)).withInstallSecurity security := by
  have hinit : (pod.initContainers ++
      [i.installContainer i.attachment (pod.withContainers bare)]).map (fun c =>
        if c.name = InstallContainer.name then { c with securityContext := security } else c) =
        pod.initContainers ++ [i.installAs pod security bare] := by
    rw [List.map_append, map_security_of_find?_eq_none hfind, List.map_singleton,
      if_pos (name_installContainer i _ _)]
    rfl
  rw [injectedAs, ← hinit, Pod.withInstallSecurity, inject, ← getD_initContainers, ← getD_volumes]
  rfl

/-- An injection takes the security context of the first container. -/
theorem installAs_containers (i : Injection) (pod : Pod) :
    i.installAs pod (pod.containers.head?.bind (·.securityContext)) pod.containers =
      i.installContainer i.attachment pod := by
  unfold installAs installContainer
  split <;> rfl

/-- The rounds begin there, with the security context of the first container. -/
theorem inject_eq_injectedAs (i : Injection) (pod : Pod) :
    i.inject pod =
      i.injectedAs pod (pod.containers.head?.bind (·.securityContext)) pod.containers := by
  rw [injectedAs, installAs_containers, ← getD_initContainers, ← getD_volumes]
  rcases pod with ⟨metadata, _ | spec, status⟩ <;> rfl

/-! ## 3. One round -/

theorem name_installAs (bare : List Container) :
    (i.installAs pod security bare).name = InstallContainer.name :=
  name_installContainer i _ _

/-- The install container is found, whatever the containers are replaced by. -/
theorem find?_injectedAs (hfind : InstallContainer.find? pod = none) (bare cs : List Container) :
    InstallContainer.find? ((i.injectedAs pod security bare).withContainers cs) =
      some (i.installAs pod security bare) := by
  have hinit : ((i.injectedAs pod security bare).withContainers cs).initContainers =
      pod.initContainers ++ [i.installAs pod security bare] := rfl
  rw [InstallContainer.find?_eq] at hfind ⊢
  rw [hinit, List.find?_append, hfind, Option.none_or, List.find?_cons_of_pos]
  exact decide_eq_true (name_installAs bare)

/-- **What a repair wants is what the injection gave**: the workload is read back as it was
written. -/
theorem repairAttachment_injectedAs (hfind : InstallContainer.find? pod = none)
    (bare cs : List Container) :
    i.repairAttachment ((i.injectedAs pod security bare).withContainers cs) = i.attachment := by
  refine repairAttachment_of_recorded (find?_injectedAs hfind bare cs) ?_
  exact workload?_installContainer i (pod.withContainers bare)

/-- A container of the Pod is its bare form with the attachment. -/
theorem fst_of_mem_zip_map {f : Container → Container} {m : Container × Container} :
    ∀ {bare : List Container}, m ∈ (bare.map f).zip bare → m.1 = f m.2
  | [], h => absurd h List.not_mem_nil
  | b :: bare, h => by
    rw [List.map_cons, List.zip_cons_cons] at h
    rcases List.mem_cons.mp h with rfl | h
    · rfl
    · exact fst_of_mem_zip_map h

/-- **Every container ends up injected once**: one that is there lacks nothing, a new one lacks
all. -/
theorem repairedContainers_injectedAs (hfind : InstallContainer.find? pod = none)
    {bare : List Container} {mix : List (Container × Container)}
    (mixes : Mixes (bare.map i.attachment.attach) bare mix) :
    i.repairedContainers ((i.injectedAs pod security bare).withContainers (mix.map (·.1))) =
      (mix.map (·.2)).map i.attachment.attach := by
  rw [repairedContainers, Pod.containers_withContainers, List.map_map, List.map_map]
  refine List.map_congr_left fun m hm => ?_
  have hlacking :
      i.lackingIn ((i.injectedAs pod security bare).withContainers (mix.map (·.1))) m.1 =
        lacking i.attachment true m.1 := by
    rw [lackingIn, repairAttachment_injectedAs hfind, find?_injectedAs hfind]; rfl
  rw [Function.comp_apply, Function.comp_apply, hlacking]
  rcases mixes m hm with hzip | ⟨huntouched, hbare⟩
  · rw [fst_of_mem_zip_map hzip,
      Attachment.attach_of_isEmpty (isEmpty_lacking_attach i.attachment true m.2)]
  · rw [hbare, lacking_of_untouched huntouched.agent huntouched.enrichment]

/-- **Writing the entries anew gives the install container of a fresh injection.** -/
theorem sync_installAs (hagent : i.attachment.agent.isSome = true) (bare bare' : List Container) :
    InstallContainer.sync (i.installAs pod security bare) (bare'.map i.attachment.attach) =
      i.installAs pod security bare' := by
  have hvars : (InstallContainer.sync (i.installAs pod security bare)
      (bare'.map i.attachment.attach)).envVars = (i.installAs pod security bare').envVars := by
    have hlayout : (i.installAs pod security bare).envVars = _ :=
      envVars_installContainer i i.attachment (pod.withContainers bare)
    have hlayout' : (i.installAs pod security bare').envVars = _ :=
      envVars_installContainer i i.attachment (pod.withContainers bare')
    rw [InstallContainer.envVars_sync_of_layout hlayout
      (fun _ he => isEntryName_of_mem_fixedVars he) (filter_freshEntries _ _), hlayout',
      freshEntries, if_pos hagent, InstallContainer.entriesFrom_map_attach hagent, List.length_map]
    rfl
  rw [InstallContainer.sync_eq, hvars]
  unfold installAs installContainer
  rw [if_pos hagent, if_pos hagent]
  rfl

/-- **One round.**  A repair after an edit leads to the Pod that a fresh injection makes. -/
theorem repair_injectedAs (hfind : InstallContainer.find? pod = none)
    (hagent : i.attachment.agent.isSome = true) {bare : List Container}
    {mix : List (Container × Container)}
    (mixes : Mixes (bare.map i.attachment.attach) bare mix) :
    (i.repair ((i.injectedAs pod security bare).withContainers (mix.map (·.1)))).1 =
      i.injectedAs pod security (mix.map (·.2)) := by
  have hcontainers : i.repairedContainers ((i.injectedAs pod security bare).withContainers
      (mix.map (·.1))) = (mix.map (·.2)).map i.attachment.attach :=
    repairedContainers_injectedAs hfind mixes
  have hinit : i.repairedInit ((i.injectedAs pod security bare).withContainers (mix.map (·.1)))
      (pod.initContainers ++ [i.installAs pod security bare]) =
        pod.initContainers ++ [i.installAs pod security (mix.map (·.2))] := by
    rw [repairedInit, repairAttachment_injectedAs hfind, if_pos hagent, hcontainers]
    rw [InstallContainer.find?_eq] at hfind
    rw [replaceFirst_append_cons hfind (decide_eq_true (name_installAs bare)),
      sync_installAs hagent]
  rw [fst_repair, hcontainers, eq_comm, injectedAs, ← hinit]
  rfl

/-! ## 4. Any number of rounds -/

/-- Rounds arrive at the Pod that a fresh injection makes, but for the security context. -/
theorem eq_injectedAs_of_rounds (hfind : InstallContainer.find? pod = none)
    (hagent : i.features.oneAgent = true) {bare : List Container} {p : Pod}
    (h : Rounds i pod bare p) :
    p = i.injectedAs pod (pod.containers.head?.bind (·.securityContext)) bare := by
  have hsome : i.attachment.agent.isSome = true := by rw [attachment, if_pos hagent]; rfl
  induction h with
  | injected => exact inject_eq_injectedAs i pod
  | repaired rounds mix mixes workload driver ih =>
    subst ih
    rw [repair_of_workload_of_driver]
    exact repair_injectedAs hfind hsome mixes

/-- **Repairs agree with fresh injections.**  Whatever containers other parties take out, put in or
move between the rounds, the Pod is after every round what a fresh injection makes of the original
Pod with the bare containers in that order, but for the security context of the install container:
that is the one of the first injection. -/
theorem eq_inject_of_rounds {i : Injection} {pod p : Pod} {bare : List Container}
    (hfind : InstallContainer.find? pod = none) (hagent : i.features.oneAgent = true)
    (h : Rounds i pod bare p) :
    p = (i.inject (pod.withContainers bare)).withInstallSecurity
      (pod.containers.head?.bind (·.securityContext)) := by
  rw [← injectedAs_eq hfind]
  exact eq_injectedAs_of_rounds hfind hagent h

/-! ## 5. A sidecar in front -/

/-- A container of a small web application. -/
def web : Container := { name := "web", image := some "web:1", securityContext := some {} }

/-- A sidecar that some other party adds. -/
def mesh : Container := { name := "mesh", image := some "mesh:1" }

/-- A Pod with the web application. -/
def webPod : Pod := { spec := some { containers := [web] } }

/-- Everything is injected. -/
def fullInjection : Injection :=
  { config := { spec := { apiUrl := "https://beacon.example" } }
    features := { oneAgent := true, dataIngest := true }
    settings := .ofAnnotations .empty "install:1"
    driver := defaultDriver
    metadata := ""
    workload := some { kind := "Deployment", name := "shop" }
    endpoint :=
      some (.ofList [(ingestUrlKey, "https://beacon.example/v2"), (ingestTokenKey, "t")]) }

/-- The Pod after the sidecar was put in front of the injected application. -/
def meshInFront : Pod :=
  ({ fullInjection with workload := none, driver := "" } : Injection).repair
    ((fullInjection.inject webPod).withContainers [mesh, fullInjection.attachment.attach web]) |>.1

/-- The rounds lead to a fresh injection of both containers, with the security context of the
first. -/
theorem meshInFront_eq_inject :
    InstallContainer.find? webPod = none ∧ fullInjection.features.oneAgent = true ∧
      Rounds fullInjection webPod [mesh, web] meshInFront ∧
      meshInFront =
        (fullInjection.inject (webPod.withContainers [mesh, web])).withInstallSecurity
          (some {}) := by
  have hrounds : Rounds fullInjection webPod [mesh, web] meshInFront := by
    refine Rounds.repaired .injected
      [(mesh, mesh), (fullInjection.attachment.attach web, web)] ?_ none ""
    intro m hm
    rcases List.mem_cons.mp hm with rfl | hm
    · exact .inr ⟨⟨rfl, rfl⟩, rfl⟩
    · exact .inl hm
  exact ⟨rfl, rfl, hrounds, eq_inject_of_rounds rfl rfl hrounds⟩

end Injection
end InjectionWebhook
