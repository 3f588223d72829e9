/-
# A second admission changes nothing

An admission may be repeated on the Pod it patched.  The records it left change neither the switches
of the Pod nor its install settings (`features_inject`, `settings_inject`), they mark the Pod
(`marksInjected_inject`), and a fresh injection has nothing to repair (`repair_inject`).

So the second admission decides as the first did, finds the marker, and ends with an unchanged Pod:
it looks up no owner and announces nothing (`decide_patched_settles`).
-/
import InjectionWebhook.Cluster.Script
import InjectionWebhook.Proofs.Decision
import InjectionWebhook.Proofs.RepairAgreement

namespace InjectionWebhook

/-! ## 1. Records and switches -/

/-- The keys of the annotations that record an injection. -/
def recordKeys : List String :=
  [markerKey, Capability.dataIngest.recordKey, Capability.oneAgent.recordKey]

/-- Only recording annotations are changed by the records of an injection. -/
theorem get?_records {key : String} (h : key ∉ recordKeys) (d : Dict String) (f : Features) :
    (d.extend f.records).get? key = d.get? key := by
  refine Dict.get?_extend_of_ne fun e he hkey => h ?_
  have hkeys : f.records.map (·.1) = recordKeys := rfl
  rw [← hkeys, ← hkey]
  exact List.mem_map_of_mem he

/-- **The records leave the switches alone.** -/
theorem ofAnnotations_records (d : Dict String) (f : Features) :
    Features.ofAnnotations (d.extend f.records) = Features.ofAnnotations d := by
  simp only [Features.ofAnnotations, Dict.truthOr]
  rw [get?_records (by decide), get?_records (by decide), get?_records (by decide)]

/-- **The records leave the install settings alone.** -/
theorem settings_records (d : Dict String) (f : Features) (image : String) :
    InstallSettings.ofAnnotations (d.extend f.records) image = .ofAnnotations d image := by
  simp only [InstallSettings.ofAnnotations, Dict.textOr]
  rw [get?_records (by decide), get?_records (by decide), get?_records (by decide),
    get?_records (by decide)]

/-- Some capability is on exactly when the marker is not empty. -/
theorem marker_ne_empty {f : Features} (h : f.any = true) : f.marker ≠ "" := by
  obtain ⟨oneAgent, dataIngest⟩ := f
  cases oneAgent <;> cases dataIngest
  · exact absurd h (by decide)
  all_goals decide

/-- **The marker is what the records say.** -/
theorem get?_marker_records (d : Dict String) (f : Features) :
    (d.extend f.records).get? markerKey = some f.marker := by
  have hkey : ∀ c : Capability, c.recordKey ≠ markerKey := by
    intro c
    cases c <;> decide
  rw [Features.records, Dict.extend_cons, Dict.get?_extend_of_ne, Dict.get?_insert, if_pos rfl]
  intro e he
  obtain ⟨c, -, rfl⟩ := List.mem_map.mp he
  exact hkey c

/-- Only the marker counts. -/
theorem marksInjected_congr {d d' : Dict String} (h : d'.get? markerKey = d.get? markerKey) :
    d'.marksInjected = d.marksInjected := by
  rw [Dict.marksInjected, Dict.marksInjected, Dict.textOr, Dict.textOr, h]

/-- **A marker of some capability marks the Pod.** -/
theorem marksInjected_of_marker {d : Dict String} {f : Features}
    (h : d.get? markerKey = some f.marker) (hany : f.any = true) : d.marksInjected = true := by
  rw [Dict.marksInjected, Dict.textOr, h]
  exact decide_eq_true (marker_ne_empty hany)

/-- **The records of an injection mark the Pod.** -/
theorem marksInjected_records {f : Features} (h : f.any = true) (d : Dict String) :
    (d.extend f.records).marksInjected = true :=
  marksInjected_of_marker (get?_marker_records d f) h

/-! ## 2. A fresh injection has nothing to repair -/

namespace Injection

/-- **A fresh injection is settled**: no container lacks anything, and the entries are up to
date. -/
theorem repair_inject {i : Injection} {pod : Pod} (hfind : InstallContainer.find? pod = none) :
    i.repair (i.inject pod) = (i.inject pod, false) := by
  have hinstall := find?_inject (i := i) hfind
  have hwants : i.repairAttachment (i.inject pod) = i.attachment :=
    repairAttachment_of_recorded hinstall (workload?_installContainer i pod)
  refine repair_of_settled ?_ ?_
  · intro c hc
    rw [containers_inject] at hc
    obtain ⟨b, -, rfl⟩ := List.mem_map.mp hc
    rw [lackingIn, hwants]
    exact isEmpty_lacking_attach i.attachment _ b
  · intro hagent install hsome
    rw [hwants] at hagent
    rw [hinstall] at hsome
    rw [← Option.some.inj hsome, containers_inject, ← installAs_containers]
    exact sync_installAs hagent pod.containers pod.containers

end Injection

namespace Admission

open Dialogue

variable {ws : WebhookSettings} {ns : String} {pod : Pod} {config : WorkloadConfig}

/-- **The second admission sees the switches of the first.** -/
theorem features_inject (config : WorkloadConfig) (i : Injection) (pod : Pod) :
    features config (i.inject pod) = features config pod := by
  rw [features, features, Injection.annotationMap_inject, ofAnnotations_records]

/-- **The second admission sees all the first saw.** -/
theorem injection_inject (ws : WebhookSettings) (config : WorkloadConfig) (i : Injection)
    (pod : Pod) (endpoint : Option EndpointFields) :
    injection ws config (i.inject pod) endpoint = injection ws config pod endpoint := by
  rw [injection, injection, features_inject, Injection.annotationMap_inject, settings_records]

/-! ## 3. The second admission -/

/-- A question that neither looks for an owner nor announces anything. -/
structure Quiet (q : Query) : Prop where
  owner : ∀ ref ns, q ≠ .owner ref ns
  event : q.event? = none

variable {answer : (q : Query) → q.Answer}

/-- Whatever is asked until a Pod is admitted is quiet. -/
theorem quiet_of_admitted {asked : List Query} {found : Namespace}
    {endpoint : Option EndpointFields}
    (h : Admitted (Fixed answer) ns pod [] found config endpoint asked) : ∀ q ∈ asked, Quiet q := by
  obtain ⟨t, hbinding, hprovision⟩ := h.asked
  obtain ⟨_, name, ⟨-, rfl⟩, -, ⟨-, rfl⟩⟩ := steps_binding.mp hbinding
  obtain ⟨_, ⟨-, rfl⟩, h⟩ := steps_provision.mp hprovision
  have hquiet : ∀ q ∈ [Query.namespace_ ns, .workloadConfig name,
      .ensureInitSecret config found.metadata.nameOrEmpty,
      .ensureEndpointSecret config found.metadata.nameOrEmpty], Quiet q := by
    intro q hq
    simp only [List.mem_cons, List.not_mem_nil, or_false] at hq
    rcases hq with rfl | rfl | rfl | rfl <;> exact ⟨fun _ _ => Query.noConfusion, rfl⟩
  intro q hq
  refine hquiet q ?_
  rcases h with ⟨-, -, rfl⟩ | ⟨-, fields, ⟨-, rfl⟩, -⟩
  · exact List.mem_append_left [Query.ensureEndpointSecret config found.metadata.nameOrEmpty] hq
  · exact hq

/-- What got a Pod admitted gets the injected Pod admitted. -/
theorem Admitted.inject {σ : Type} {answers : (q : Query) → σ → q.Answer → σ → Prop} {s t : σ}
    {found : Namespace} {endpoint : Option EndpointFields}
    (h : Admitted answers ns pod s found config endpoint t) (i : Injection) :
    Admitted answers ns (i.inject pod) s found config endpoint t := by
  obtain ⟨hinjects, hwanted, hasked⟩ := h
  rw [← features_inject config i] at hwanted hasked
  exact ⟨hinjects, hwanted, hasked⟩

/-- **Admission settles.**  Where a Pod without marker and without install container is patched,
admitting the patched Pod again changes nothing, looks up no owner and announces nothing. -/
theorem decide_patched_settles {answer : (q : Query) → q.Answer} {ws : WebhookSettings}
    {ns : String} {pod p : Pod} {warnings : List String}
    (hmarker : pod.metadata.annotationMap.marksInjected = false)
    (hfind : InstallContainer.find? pod = none)
    (h : ((decide ws ns pod).run.run answer).1 = .ok (.patched p warnings)) :
    ((decide ws ns p).run.run answer).1 = .ok (.unchanged none) ∧
      ∀ q ∈ ((decide ws ns p).run.run answer).2, Quiet q := by
  have hfirst : (decide ws ns pod).run.Steps (Fixed answer) [] (.ok (.patched p warnings))
      ((decide ws ns pod).run.run answer).2 :=
    steps_run_iff.mpr ⟨h.symm, rfl⟩
  obtain ⟨found, config, endpoint, asked, hadmitted, -, hpatched⟩ := steps_decide_patched hfirst
  rcases hpatched with ⟨-, workload, -, rfl⟩ | ⟨hmarked, -⟩
  · let i : Injection := { injection ws config pod endpoint with workload }
    have hmarked : (i.inject pod).metadata.annotationMap.marksInjected = true :=
      marksInjected_records hadmitted.wanted _
    have hsettled : ((injection ws config pod endpoint).repair (i.inject pod)).2 = false :=
      congrArg Prod.snd (i.repair_inject hfind)
    have hact : (act ws found.metadata.nameOrEmpty (injection ws config (i.inject pod) endpoint)
        (i.inject pod)).run.Steps (Fixed answer) asked (.ok (.unchanged none)) asked := by
      rw [act, if_pos hmarked, injection_inject, steps_repair, hsettled, Bool.and_false]
      exact .inl ⟨rfl, rfl, rfl⟩
    have hsecond : (decide ws ns (i.inject pod)).run.Steps (Fixed answer) []
        (.ok (.unchanged none)) asked :=
      (steps_decide fun _ => by simp).mpr
        ⟨found, config, endpoint, asked, hadmitted.inject i, hact⟩
    obtain ⟨hverdict, hasked⟩ := steps_run_iff.mp hsecond
    rw [List.nil_append] at hasked
    exact ⟨hverdict.symm, hasked ▸ quiet_of_admitted hadmitted⟩
  · rw [hmarker] at hmarked
    exact absurd hmarked Bool.false_ne_true

/-! ## 4. A small cluster -/

/-- The config of a small cluster. -/
def shopConfig : WorkloadConfig :=
  { metadata := { name := some "shop-config" }
    spec :=
      { apiUrl := "https://beacon.example", oneAgent := { applicationMonitoring := some {} } } }

/-- A cluster with one namespace, which is bound. -/
def shopCluster : ClusterScript :=
  { namespaces := .ofList
      [("shop", .ok { metadata :=
        { name := some "shop", labels := some (.ofList [(bindingLabel, "shop-config")]) } })]
    configs := .ofList [("shop-config", .ok shopConfig)]
    endpoint := .ok (.ofList [(ingestUrlKey, "https://beacon.example/v2"), (ingestTokenKey, "t")]) }

/-- The settings of a small webhook. -/
def shopSettings : WebhookSettings := { image := "install:1", clusterId := "c" }

/-- What becomes of the web application there. -/
def shopPod : Pod :=
  { injection shopSettings shopConfig Injection.webPod
      (some (.ofList [(ingestUrlKey, "https://beacon.example/v2"), (ingestTokenKey, "t")])) with
    workload := some {} }.inject Injection.webPod

/-- A web application is patched once, and then admission settles. -/
theorem shopPod_settles :
    Injection.webPod.metadata.annotationMap.marksInjected = false ∧
      InstallContainer.find? Injection.webPod = none ∧
      ((decide shopSettings "shop" Injection.webPod).run.run shopCluster.answer).1 =
        .ok (.patched shopPod []) ∧
      ((decide shopSettings "shop" shopPod).run.run shopCluster.answer).1 = .ok (.unchanged none) ∧
      ∀ q ∈ ((decide shopSettings "shop" shopPod).run.run shopCluster.answer).2, Quiet q := by
  have hpatched : ((decide shopSettings "shop" Injection.webPod).run.run shopCluster.answer).1 =
      .ok (.patched shopPod []) := by
    rfl
  have hsettles := decide_patched_settles (by decide) rfl hpatched
  exact ⟨by decide, rfl, hpatched, hsettles.1, hsettles.2⟩

end Admission
end InjectionWebhook
