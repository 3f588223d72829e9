/-
# One injection in a career

The career of a Pod is any number of admissions, each with settings, a namespace and a cluster of
its own, with edits by others between them.  `Pass` is one of the admissions: what it was given, what
it announced, and the Pod it left.

A pass does one of three things (`Pass.course`): it injects a Pod without marker, it repairs a Pod
with marker, or it keeps the Pod.  Only the first announces an injection (`Pass.injects_iff`).  An
injection sets a Pod up (`Pass.setsUp_of_injects`); any other pass leaves volumes, annotations and
the row of init containers as they are (`Pass.leaves_of_not_injects`).

As long as others leave the marker alone, a career has one injection at most: its marker is not
empty, so every later pass finds it (`Once`, `Career.injected_once`).
-/
import InjectionWebhook.Proofs.Backing
import InjectionWebhook.Proofs.Exits
import Mathlib.Data.List.Forall2

namespace InjectionWebhook

/-! ## 1. What is planned and what may be rewritten -/

/-- The volumes an injection is planned with: for the config, and for each capability that is on. -/
def Volume.planned (driver : String) (config : WorkloadConfig) (f : Features) : List Volume :=
  [ { name := "injection-config"
      secret := some { secretName := some "beacon-injection-config" } } ] ++
  (if f.oneAgent then
    [ if config.AsksForDriver then
        { name := "oneagent-bin"
          csi := some
            { driver
              attributes := some (.ofList
                [("mode", "app"), ("workloadConfig", config.metadata.name.getD "")]) } }
      else { name := "oneagent-bin", emptyDir := some {} },
      { name := "oneagent-share", emptyDir := some {} } ]
  else []) ++
  (if f.dataIngest then
    [ { name := "data-ingest-enrichment", emptyDir := some {} },
      { name := "data-ingest-endpoint"
        secret := some { secretName := some "beacon-data-ingest-endpoint" } } ]
  else [])

/-- The same init container, or the install container with other variables. -/
def InstallContainer.Rewritten (c c' : Container) : Prop :=
  c' = c ∨ c.name = "install-beacon" ∧ ∃ env, c' = { c with env }

/-- Replacing the first element relates the lists element by element. -/
theorem forall₂_replaceFirst {α : Type} {p : α → Bool} {f : α → α} {R : α → α → Prop}
    (hrefl : ∀ a, R a a) (hf : ∀ a, p a = true → R a (f a)) :
    ∀ l : List α, List.Forall₂ R l (replaceFirst p f l)
  | [] => .nil
  | a :: l => by
    unfold replaceFirst
    split
    · rename_i ha
      exact .cons (hf a ha) (List.forall₂_same.mpr fun b _ => hrefl b)
    · exact .cons (hrefl a) (forall₂_replaceFirst hrefl hf l)

namespace Injection

/-- Enrichment takes part where it is on, if workload and endpoint are known. -/
theorem isSome_enrichment_attachment {i : Injection}
    (hworkload : i.features.dataIngest = true → i.workload.isSome = true)
    (hendpoint : i.features.dataIngest = true → i.endpoint.isSome = true) :
    i.attachment.enrichment.isSome = i.features.dataIngest := by
  cases hingest : i.features.dataIngest with
  | true =>
    obtain ⟨w, hw⟩ := Option.isSome_iff_exists.mp (hworkload hingest)
    obtain ⟨fields, hfields⟩ := Option.isSome_iff_exists.mp (hendpoint hingest)
    simp [attachment, hw, hfields, hingest]
  | false =>
    cases henrichment : i.attachment.enrichment with
    | none => rfl
    | some e =>
      rw [dataIngest_of_enrichment henrichment] at hingest
      exact absurd hingest (by simp)

/-- An injection adds the volumes it is planned with. -/
theorem volumes_eq_planned {i : Injection}
    (henriches : i.attachment.enrichment.isSome = i.features.dataIngest) :
    i.volumes i.attachment = Volume.planned i.driver i.config i.features := by
  rw [volumes, isSome_agent_attachment, henriches, Volume.forAgent_eq]
  rfl

/-- A repair rewrites the install container at most. -/
theorem rewritten_repair (i : Injection) (pod : Pod) :
    List.Forall₂ InstallContainer.Rewritten pod.initContainers
      (i.repair pod).1.initContainers := by
  rw [initContainers_repair, repairedInit]
  split
  · refine forall₂_replaceFirst (fun _ => .inl rfl) (fun c hc => .inr ⟨of_decide_eq_true hc, ?_⟩) _
    exact ⟨_, InstallContainer.sync_eq c _⟩
  · exact List.forall₂_same.mpr fun _ _ => .inl rfl

end Injection

namespace Admission

open Dialogue

/-! ## 2. One admission -/

/-- An admission of a Pod: the settings of the webhook, the namespace, the cluster and the Pod as it
was. -/
structure Pass where
  settings : WebhookSettings
  ns : String
  answer : (q : Query) → q.Answer
  before : Pod

/-- What an admission reports as patched is what it made of the Pod. -/
theorem reported_eq_ok_iff {outcome : Except AdmissionError Verdict} {v : Verdict} :
    reported outcome = .ok v ↔ outcome = .ok v := by
  cases outcome with
  | ok u =>
    have hkept : reported (.ok u) = .ok u := rfl
    rw [hkept, Except.ok.injEq, Except.ok.injEq]
  | error e =>
    have hfailed : reported (.error e) = .error (e, e.code) := rfl
    rw [hfailed]
    exact iff_of_false (by simp) (by simp)

namespace Pass

/-- What becomes of the Pod. -/
def outcome (a : Pass) : Except AdmissionError Verdict :=
  ((decide a.settings a.ns a.before).run.run a.answer).1

/-- What is asked. -/
def asked (a : Pass) : List Query := ((decide a.settings a.ns a.before).run.run a.answer).2

/-- The events that are announced. -/
def announced (a : Pass) : List Event := a.asked.filterMap Query.event?

/-- An injection is announced. -/
def injects (a : Pass) : Bool := a.announced.any (·.reason = .inject)

/-- The Pod is patched. -/
def patched (a : Pass) : Bool :=
  match a.outcome with
  | .ok (.patched _ _) => true
  | _ => false

/-- The Pod afterwards: as it was patched, or as it was. -/
def after (a : Pass) : Pod :=
  match a.outcome with
  | .ok (.patched p _) => p
  | _ => a.before

/-- The Pod came with a marker. -/
def marked (a : Pass) : Bool := a.before.metadata.annotationMap.marksInjected

/-- The config the namespace is bound to. -/
def config? (a : Pass) : Option WorkloadConfig :=
  ((binding a.ns).run.run a.answer).1.toOption.map (·.2)

/-- The capabilities that are on; none where there is no config. -/
def features (a : Pass) : Features :=
  (a.config?.map fun config => Admission.features config a.before).getD {}

/-- The questions and the outcome fit together. -/
theorem orderly (a : Pass) : Orderly a.answer a.before a.asked (reported a.outcome) :=
  orderly_of_exit (exit_of_run a.answer a.settings a.ns a.before)

/-- A patch is announced for what it is. -/
theorem announced_of_patched {a : Pass} {p : Pod} {warnings : List String}
    (h : a.outcome = .ok (.patched p warnings)) :
    ∃ event, a.announced = [event] ∧
      event.reason = if a.marked then .updatePod else .inject := by
  obtain ⟨calls, event, hasked, hsilent, hreason⟩ :=
    a.orderly.announced p warnings (reported_eq_ok_iff.mpr h)
  refine ⟨event, ?_, ?_⟩
  · rw [announced, hasked, List.filterMap_append, List.filterMap_eq_nil_iff.mpr hsilent]
    rfl
  · simp only [hreason, marked, Pod.marked_iff]

/-- Nothing else is announced. -/
theorem announced_of_not_patched {a : Pass}
    (h : ∀ p warnings, a.outcome ≠ .ok (.patched p warnings)) : a.announced = [] :=
  List.filterMap_eq_nil_iff.mpr
    (a.orderly.silent fun p warnings hreport => h p warnings (reported_eq_ok_iff.mp hreport))

/-- **An injection is announced where a Pod without marker is patched.** -/
theorem injects_iff (a : Pass) : a.injects = (a.patched && !a.marked) := by
  unfold injects patched
  split
  · rename_i p warnings houtcome
    obtain ⟨event, hannounced, hreason⟩ := announced_of_patched houtcome
    rw [hannounced, List.any_cons, List.any_nil, hreason]
    cases a.marked <;> rfl
  · rename_i hother
    rw [announced_of_not_patched hother]
    rfl

/-- An injection works under the config, with the capabilities of the Pod. -/
structure Binds (a : Pass) (i : Injection) : Prop where
  config : a.config? = some i.config
  driver : i.driver = a.settings.driver
  features : i.features = a.features

/-- What an admission does with the Pod. -/
inductive Course (a : Pass) : Prop
  /-- A Pod without marker is injected. -/
  | injected (i : Injection) (binds : a.Binds i) (unmarked : a.marked = false)
      (any : i.features.any = true)
      (enriches : i.attachment.enrichment.isSome = i.features.dataIngest)
      (patched : a.patched = true) (after : a.after = i.inject a.before)
  /-- A Pod with marker is repaired. -/
  | repaired (i : Injection) (binds : a.Binds i) (marked : a.marked = true)
      (patched : a.patched = true) (after : a.after = (i.repair a.before).1)
  /-- A Pod stays as it is. -/
  | kept (patched : a.patched = false) (after : a.after = a.before)

/-- The config a namespace is bound to is that of the pass. -/
theorem config?_of_bound {a : Pass} {found : Namespace} {name : String} {config : WorkloadConfig}
    (bound : Bound a.answer a.ns found name config) : a.config? = some config := by
  rw [config?, run_binding_of_bound bound]
  rfl

theorem binds_of_bound {a : Pass} {found : Namespace} {name : String} {i : Injection}
    (bound : Bound a.answer a.ns found name i.config) (driver : i.driver = a.settings.driver)
    (hfeatures : i.features = Admission.features i.config a.before) : a.Binds i := by
  have hconfig := config?_of_bound bound
  refine ⟨hconfig, driver, ?_⟩
  rw [hfeatures, features, hconfig]
  rfl

theorem patched_of_outcome {a : Pass} {p : Pod} {warnings : List String}
    (h : a.outcome = .ok (.patched p warnings)) : a.patched = true ∧ a.after = p := by
  unfold patched after
  rw [h]
  exact ⟨rfl, rfl⟩

/-- Where the report is none of a patch, the Pod stays as it is. -/
theorem unpatched_of_report {a : Pass}
    (h : ∀ p warnings, reported a.outcome ≠ .ok (.patched p warnings)) :
    a.patched = false ∧ a.after = a.before := by
  have hother : ∀ p warnings, a.outcome ≠ .ok (.patched p warnings) :=
    fun p warnings houtcome => h p warnings (reported_eq_ok_iff.mpr houtcome)
  constructor
  · unfold patched
    split
    · rename_i houtcome
      exact absurd houtcome (hother _ _)
    · rfl
  · unfold after
    split
    · rename_i houtcome
      exact absurd houtcome (hother _ _)
    · rfl

/-- **The three courses of an admission**, read off its exit. -/
theorem course (a : Pass) : a.Course := by
  obtain ⟨asked, report, hexit⟩ := exists_exit a.answer a.settings a.ns a.before
  have hreport : reported a.outcome = report := (run_of_exit hexit).1
  cases hexit with
  | @injected found name config endpoint workload owners ready unmarked located =>
    let i : Injection := { injection a.settings config a.before endpoint with workload }
    have hon : i.features.dataIngest = config.turnsOn a.before .dataIngest :=
      dataIngest_features config a.before
    obtain ⟨hpatched, hafter⟩ := patched_of_outcome (reported_eq_ok_iff.mp hreport)
    have henriches : i.attachment.enrichment.isSome = i.features.dataIngest := by
      refine Injection.isSome_enrichment_attachment (fun hingest => ?_) (fun hingest => ?_)
      · rw [← hon, hingest] at located
        obtain ⟨w, hw, -⟩ := located
        exact Option.isSome_iff_exists.mpr ⟨w, hw⟩
      · have hknown := ready.known
        rw [← hon, hingest] at hknown
        obtain ⟨fields, -, -, hfields⟩ := hknown
        exact Option.isSome_iff_exists.mpr ⟨fields, hfields⟩
    exact .injected i (binds_of_bound ready.wanted.bound rfl rfl) (Pod.not_marked_iff.mpr unmarked)
      (any_features_iff.mpr ready.wanted.any) henriches hpatched hafter
  | @repaired found name config endpoint ready marked repairs changed =>
    obtain ⟨hpatched, hafter⟩ := patched_of_outcome (reported_eq_ok_iff.mp hreport)
    exact .repaired (injection a.settings config a.before endpoint)
      (binds_of_bound ready.wanted.bound rfl rfl) (Pod.marked_iff.mpr marked) hpatched hafter
  | _ =>
    obtain ⟨hpatched, hafter⟩ := unpatched_of_report (a := a) fun p warnings hpatched => by
      rw [hpatched] at hreport
      exact absurd hreport (by simp)
    exact .kept hpatched hafter

/-! ## 3. What an injection does, and what any other pass does -/

/-- The pass sets the Pod up under a config: one install container more, the volumes it is planned
with, and the records of the capabilities that are on. -/
structure SetsUp (a : Pass) (config : WorkloadConfig) : Prop where
  bound : a.config? = some config
  install : ∃ install, install.name = "install-beacon" ∧
    a.after.initContainers = a.before.initContainers ++ [install]
  volumes : a.after.volumes =
    a.before.volumes ++ Volume.planned a.settings.driver config a.features
  annotations : a.after.metadata.annotationMap =
    a.before.metadata.annotationMap.extend a.features.records

/-- The pass leaves annotations and volumes as they are, and of the init containers it rewrites the
install container at most. -/
structure Leaves (a : Pass) : Prop where
  metadata : a.after.metadata = a.before.metadata
  volumes : a.after.volumes = a.before.volumes
  init : List.Forall₂ InstallContainer.Rewritten a.before.initContainers a.after.initContainers

/-- **An injection sets the Pod up**, and some capability was on. -/
theorem setsUp_of_injects {a : Pass} (h : a.injects = true) :
    a.marked = false ∧ a.features.any = true ∧ ∃ config, a.SetsUp config := by
  rw [injects_iff, Bool.and_eq_true, Bool.not_eq_true'] at h
  obtain ⟨hpatched, hunmarked⟩ := h
  cases a.course with
  | injected i binds unmarked any enriches patched after =>
    have hplanned := Injection.volumes_eq_planned enriches
    rw [binds.driver, binds.features] at hplanned
    refine ⟨unmarked, binds.features ▸ any, i.config, binds.config, ?_, ?_, ?_⟩
    · exact ⟨_, Injection.name_installContainer i i.attachment a.before, by
        rw [after, Injection.initContainers_inject]⟩
    · rw [after, Injection.volumes_inject, hplanned]
    · rw [after, Injection.annotationMap_inject, binds.features]
  | repaired i binds marked =>
    rw [hunmarked] at marked
    exact absurd marked Bool.false_ne_true
  | kept patched =>
    rw [hpatched] at patched
    exact absurd patched Bool.noConfusion

/-- **Any other pass leaves the Pod as it was set up.** -/
theorem leaves_of_not_injects {a : Pass} (h : a.injects = false) : a.Leaves := by
  cases a.course with
  | injected i binds unmarked any enriches patched after =>
    rw [injects_iff, patched, unmarked] at h
    exact absurd h (by decide)
  | repaired i binds marked patched after =>
    refine ⟨?_, ?_, ?_⟩
    · rw [after, Injection.metadata_repair]
    · rw [after, Injection.volumes_repair]
    · rw [after]
      exact i.rewritten_repair a.before
  | kept patched after =>
    refine ⟨?_, ?_, ?_⟩
    · rw [after]
    · rw [after]
    · rw [after]
      exact List.forall₂_same.mpr fun _ _ => .inl rfl

end Pass

/-! ## 4. Careers -/

/-- The career of a Pod: admissions, the last one first, with edits of some kind between them. -/
inductive Career (edit : Pod → Pod → Prop) (start : Pod) : List Pass → Pod → Prop
  | start : Career edit start [] start
  | edited {passes : List Pass} {p p' : Pod} (career : Career edit start passes p)
      (edited : edit p p') : Career edit start passes p'
  | admitted {passes : List Pass} {a : Pass} (career : Career edit start passes a.before) :
      Career edit start (a :: passes) a.after

/-- What edits and passes keep holds all along a career: at its end, and before each pass. -/
theorem Career.invariant {edit : Pod → Pod → Prop} {inv : Pod → Prop} {start p : Pod}
    {passes : List Pass} (h : Career edit start passes p) (hstart : inv start)
    (hedited : ∀ {p p' : Pod}, inv p → edit p p' → inv p')
    (hadmitted : ∀ {a : Pass}, inv a.before → inv a.after) :
    inv p ∧ ∀ a ∈ passes, inv a.before := by
  induction h with
  | start => exact ⟨hstart, fun _ ha => absurd ha List.not_mem_nil⟩
  | edited career e ih => exact ⟨hedited ih.1 e, ih.2⟩
  | @admitted passes a career ih =>
    refine ⟨hadmitted ih.1, fun b hb => ?_⟩
    rcases List.mem_cons.mp hb with rfl | hb
    · exact ih.1
    · exact ih.2 b hb

/-- What others do to a Pod, as long as they leave the marker alone. -/
def LeavesMarker (p p' : Pod) : Prop :=
  p'.metadata.annotationMap.get? "beacon.dev/injected" =
    p.metadata.annotationMap.get? "beacon.dev/injected"

/-- The marker of a Pod is that of some capabilities. -/
def Records (p : Pod) (f : Features) : Prop :=
  p.metadata.annotationMap.get? markerKey = some f.marker

/-- Nothing was injected, or one pass injected and the Pod carries its marker. -/
def Once (passes : List Pass) (p : Pod) : Prop :=
  passes.filter Pass.injects = [] ∨
    ∃ a, passes.filter Pass.injects = [a] ∧ a.features.any = true ∧ Records p a.features

/-- **One more pass injects only if none did before.** -/
theorem once_admitted {passes : List Pass} {a : Pass} (h : Once passes a.before) :
    Once (a :: passes) a.after := by
  cases hinjects : a.injects with
  | true =>
    obtain ⟨hunmarked, hany, config, hsetsUp⟩ := Pass.setsUp_of_injects hinjects
    rcases h with hnone | ⟨b, -, hb, hrecords⟩
    · refine .inr ⟨a, ?_, hany, ?_⟩
      · rw [List.filter_cons_of_pos hinjects, hnone]
      · rw [Records, hsetsUp.annotations, get?_marker_records]
    · -- The marker of an earlier injection is not empty, so this pass would have found it.
      have hmarked : a.marked = true := marksInjected_of_marker hrecords hb
      rw [hunmarked] at hmarked
      exact absurd hmarked Bool.false_ne_true
  | false =>
    have hleaves := Pass.leaves_of_not_injects hinjects
    have hfilter : (a :: passes).filter Pass.injects = passes.filter Pass.injects :=
      List.filter_cons_of_neg (by simp [hinjects])
    have hsame : ∀ f, Records a.before f → Records a.after f := fun f hf => by
      rw [Records, hleaves.metadata]
      exact hf
    rw [Once, hfilter]
    exact h.imp id fun ⟨b, hb, hany, hrecords⟩ => ⟨b, hb, hany, hsame _ hrecords⟩

/-- **A career has one injection at most.** -/
theorem Career.once {start p : Pod} {passes : List Pass}
    (h : Career LeavesMarker start passes p) : Once passes p := by
  induction h with
  | start => exact .inl rfl
  | edited career edit ih =>
    refine ih.imp id fun ⟨a, ha, hany, hrecords⟩ => ⟨a, ha, hany, ?_⟩
    exact edit.trans hrecords
  | admitted career ih => exact once_admitted ih

/-- **A Pod is injected once, and its marker stays.**  In every career in which others leave the
marker alone, one pass at most announces an injection.  That pass adds one install container and the
volumes it is planned with, and no other pass adds, removes or reorders init containers or volumes,
or changes an annotation.  From then on the marker names the capabilities that were on in that
pass, and it is not empty. -/
theorem Career.injected_once {start p : Pod} {passes : List Pass}
    (h : Career LeavesMarker start passes p) :
    (passes.filter Pass.injects).length ≤ 1 ∧
      (∀ a ∈ passes, if a.injects then ∃ config, a.SetsUp config else a.Leaves) ∧
      ∀ a ∈ passes, a.injects = true →
        p.metadata.annotationMap.get? "beacon.dev/injected" = some a.features.rendering ∧
          a.features.rendering ≠ "" := by
  refine ⟨?_, fun a _ => ?_, fun a ha hinjects => ?_⟩
  · rcases h.once with hnone | ⟨a, ha, -⟩
    · simp [hnone]
    · simp [ha]
  · split
    · rename_i hinjects
      exact (Pass.setsUp_of_injects hinjects).2.2
    · rename_i hother
      exact Pass.leaves_of_not_injects (Bool.not_eq_true _ ▸ hother)
  · have hmem : a ∈ passes.filter Pass.injects := List.mem_filter.mpr ⟨ha, hinjects⟩
    rcases h.once with hnone | ⟨b, hb, hany, hrecords⟩
    · rw [hnone] at hmem
      exact absurd hmem List.not_mem_nil
    · rw [hb, List.mem_singleton] at hmem
      rw [hmem, ← Features.marker_eq]
      exact ⟨hrecords, marker_ne_empty hany⟩

/-- An admission of the small shop, with a config that asks for repairs. -/
def shopPass (p : Pod) : Pass :=
  { settings := shopSettings, ns := "shop", answer := repairingCluster.answer, before := p }

/-- The web application is injected; the sidecar it gets is repaired. -/
theorem webPod_injected_once :
    Career LeavesMarker Injection.webPod [shopPass meshPod, shopPass Injection.webPod]
        (shopPass meshPod).after ∧
      (shopPass Injection.webPod).injects = true ∧ (shopPass meshPod).patched = true ∧
      (shopPass meshPod).Leaves ∧
      (shopPass meshPod).after.metadata.annotationMap.get? "beacon.dev/injected" =
        some (shopPass Injection.webPod).features.rendering := by
  have hinjects : (shopPass Injection.webPod).injects = true := by decide +kernel
  have hother : (shopPass meshPod).injects = false := by decide +kernel
  have hcareer : Career LeavesMarker Injection.webPod
      [shopPass meshPod, shopPass Injection.webPod] (shopPass meshPod).after :=
    .admitted (.edited (.admitted .start) rfl)
  obtain ⟨-, hpasses, hmarker⟩ := hcareer.injected_once
  have hleaves := hpasses (shopPass meshPod) List.mem_cons_self
  rw [hother, if_neg Bool.false_ne_true] at hleaves
  refine ⟨hcareer, hinjects, by decide +kernel, hleaves, ?_⟩
  exact (hmarker (shopPass Injection.webPod) (List.mem_cons_of_mem _ List.mem_cons_self) hinjects).1

end Admission
end InjectionWebhook
