/-
# What an admission did, read off its verdict

For each step of the decision about a Pod there is one lemma that says when the step succeeds, with
which result, and what was asked on the way: `steps_binding`, `steps_provision`, `steps_inject`,
`steps_repair`.  `steps_decide` puts them together, and `steps_decide_patched` says how a Pod comes
to be patched: bound, wanted and provisioned (`Admitted`), and then injected or repaired.

The first section says what the decision looks at in terms of Pods, configs and endpoints: which
capabilities are on (`WorkloadConfig.turnsOn`), whether the Pod bears a marker (`Pod.Marked`), and
which field an endpoint lacks (`FirstLacking`).

All lemmas hold for every way of answering the questions (`Dialogue.Steps`).
-/
import InjectionWebhook.Admission.Decision
import InjectionWebhook.Proofs.Steps

namespace InjectionWebhook

/-! ## 1. What the decision looks at -/

/-- The capability is on for a Pod: the Pod asks for it, and the config does not rule it out. -/
def WorkloadConfig.turnsOn (config : WorkloadConfig) (pod : Pod) (c : Capability) : Bool :=
  (pod.metadata.annotations.getD .empty).asksFor c &&
    !(config.spec.features.disableMetadataEnrichment && c = .dataIngest)

/-- A Pod bears the marker of an injection. -/
def Pod.Marked (pod : Pod) : Prop :=
  ∃ marker ∈ (pod.metadata.annotations.getD .empty).get? "beacon.dev/injected", marker ≠ ""

instance (pod : Pod) : Decidable pod.Marked :=
  inferInstanceAs (Decidable (∃ marker ∈
    (pod.metadata.annotations.getD .empty).get? "beacon.dev/injected", marker ≠ ""))

theorem Pod.marked_iff {pod : Pod} :
    pod.metadata.annotationMap.marksInjected = true ↔ pod.Marked := by
  rw [Dict.marksInjected, Dict.textOr, decide_eq_true_eq, Pod.Marked]
  change ((pod.metadata.annotations.getD .empty).get? "beacon.dev/injected").getD "" ≠ "" ↔ _
  cases (pod.metadata.annotations.getD .empty).get? "beacon.dev/injected" <;> simp

theorem Pod.not_marked_iff {pod : Pod} :
    pod.metadata.annotationMap.marksInjected = false ↔ ¬ pod.Marked := by
  rw [← Pod.marked_iff, Bool.not_eq_true]

namespace Admission

/-- **Which capabilities are on**, by the annotations and the config. -/
theorem enables_features (config : WorkloadConfig) (pod : Pod) (c : Capability) :
    (features config pod).enables c = config.turnsOn pod c := by
  have hasks : (Features.ofAnnotations pod.metadata.annotationMap).enables c =
      (pod.metadata.annotations.getD .empty).asksFor c := Features.enables_ofAnnotations _ c
  rw [features, WorkloadConfig.turnsOn, ← hasks, WorkloadConfig.disablesEnrichment]
  cases config.spec.features.disableMetadataEnrichment with
  | false => simp
  | true => cases c <;> simp [Features.without]

theorem any_features_iff {config : WorkloadConfig} {pod : Pod} :
    (features config pod).any = true ↔ ∃ c, config.turnsOn pod c = true := by
  simp only [Features.any_eq_true_iff, enables_features]

theorem dataIngest_features (config : WorkloadConfig) (pod : Pod) :
    (features config pod).dataIngest = config.turnsOn pod .dataIngest :=
  enables_features config pod .dataIngest

/-- The first field of an endpoint that is lacking, of the two that enrichment needs. -/
inductive FirstLacking (fields : EndpointFields) : String → Prop
  | url (lacks : fields.Lacks "BEACON_METRICS_INGEST_URL") :
      FirstLacking fields "BEACON_METRICS_INGEST_URL"
  | token (has : ¬ fields.Lacks "BEACON_METRICS_INGEST_URL")
      (lacks : fields.Lacks "BEACON_METRICS_INGEST_API_TOKEN") :
      FirstLacking fields "BEACON_METRICS_INGEST_API_TOKEN"

theorem missingField?_eq_some_iff {fields : EndpointFields} {key : String} :
    missingField? fields = some key ↔ FirstLacking fields key := by
  rw [missingField?, List.find?_cons, List.find?_cons, List.find?_nil]
  by_cases hurl : fields.Lacks ingestUrlKey
  · rw [decide_eq_true (Dict.lacks_iff.mpr hurl), Option.some.injEq]
    constructor
    · rintro rfl
      exact .url hurl
    · rintro (_ | ⟨hhas, -⟩)
      · rfl
      · exact absurd hurl hhas
  · rw [decide_eq_false (mt Dict.lacks_iff.mp hurl)]
    by_cases htoken : fields.Lacks ingestTokenKey
    · rw [decide_eq_true (Dict.lacks_iff.mpr htoken), Option.some.injEq]
      constructor
      · rintro rfl
        exact .token hurl htoken
      · rintro (hlacks | _)
        · exact absurd hlacks hurl
        · rfl
    · rw [decide_eq_false (mt Dict.lacks_iff.mp htoken)]
      refine iff_of_false (by simp) ?_
      rintro (hlacks | ⟨-, hlacks⟩)
      · exact hurl hlacks
      · exact htoken hlacks

theorem missingField?_eq_none_iff {fields : EndpointFields} :
    missingField? fields = none ↔ ∀ key, ¬ FirstLacking fields key := by
  simp only [← missingField?_eq_some_iff, Option.eq_none_iff_forall_ne_some, ne_eq]

open Dialogue

variable {σ : Type} {answers : (q : Query) → σ → q.Answer → σ → Prop} {s s' : σ}
variable {ws : WebhookSettings} {ns : String} {pod : Pod} {config : WorkloadConfig} {i : Injection}

/-! ## 2. The steps -/

theorem steps_orElse {α : Type} {d : ClusterDialogue (Except Failure α)}
    {wrap : Failure → AdmissionError} {a : α} :
    (orElse d wrap).run.Steps answers s (.ok a) s' ↔ d.Steps answers s (.ok a) s' := by
  change (d.bind fun r => .done (r.mapError wrap)).Steps answers s (.ok a) s' ↔ _
  rw [steps_bind]
  constructor
  · rintro ⟨r, t, h, hdone⟩
    obtain ⟨hr, rfl⟩ := steps_done.mp hdone
    cases r with
    | error e =>
      have hfailed : Except.ok a = .error (wrap e) := hr
      exact absurd hfailed (by simp)
    | ok b =>
      rw [Except.ok.inj hr]
      exact h
  · intro h
    exact ⟨.ok a, s', h, .done _ _⟩

section Asking

variable {wrap : Failure → AdmissionError}

theorem steps_askNamespace {found : Namespace} :
    (orElse (Query.askNamespace ns) wrap).run.Steps answers s (.ok found) s' ↔
      answers (.namespace_ ns) s (.ok found) s' :=
  steps_orElse.trans steps_ask_done

theorem steps_askWorkloadConfig {name : String} {config? : Option WorkloadConfig} :
    (orElse (Query.askWorkloadConfig name) wrap).run.Steps answers s (.ok config?) s' ↔
      answers (.workloadConfig name) s (.ok config?) s' :=
  steps_orElse.trans steps_ask_done

theorem steps_askInitSecret :
    (orElse (Query.askInitSecret config ns) wrap).run.Steps answers s (.ok ()) s' ↔
      answers (.ensureInitSecret config ns) s (.ok ()) s' :=
  steps_orElse.trans steps_ask_done

theorem steps_askEndpointSecret {fields : EndpointFields} :
    (orElse (Query.askEndpointSecret config ns) wrap).run.Steps answers s (.ok fields) s' ↔
      answers (.ensureEndpointSecret config ns) s (.ok fields) s' :=
  steps_orElse.trans steps_ask_done

end Asking

/-- **A binding is found** where the namespace is labelled and the config exists. -/
theorem steps_binding {found : Namespace} :
    (binding ns).run.Steps answers s (.ok (found, config)) s' ↔
      ∃ t name, answers (.namespace_ ns) s (.ok found) t ∧
        (found.metadata.labels.getD .empty).get? bindingLabel = some name ∧
        answers (.workloadConfig name) t (.ok (some config)) s' := by
  rw [binding, steps_bind_ok]
  constructor
  · rintro ⟨found', t, hns, h⟩
    rw [steps_askNamespace] at hns
    cases hlabel : (found'.metadata.labels.getD .empty).get? bindingLabel with
    | none =>
      rw [hlabel] at h
      exact absurd h not_steps_throw
    | some name =>
      rw [hlabel, steps_bind_ok] at h
      obtain ⟨config' | _, u, hconfig, h⟩ := h
      · exact absurd h not_steps_throw
      · rw [steps_askWorkloadConfig] at hconfig
        obtain ⟨heq, rfl⟩ := steps_pure.mp h
        obtain ⟨rfl, rfl⟩ := Prod.mk.inj heq
        exact ⟨t, name, hns, hlabel, hconfig⟩
  · rintro ⟨t, name, hns, hlabel, hconfig⟩
    refine ⟨found, t, steps_askNamespace.mpr hns, ?_⟩
    rw [hlabel, steps_bind_ok]
    exact ⟨some config, s', steps_askWorkloadConfig.mpr hconfig, steps_pure.mpr ⟨rfl, rfl⟩⟩

/-- **The secrets are provisioned**, and with enrichment the endpoint is known. -/
theorem steps_provision {features : Features} {endpoint : Option EndpointFields} :
    (provision config features ns).run.Steps answers s (.ok endpoint) s' ↔
      ∃ t, answers (.ensureInitSecret config ns) s (.ok ()) t ∧
        (features.dataIngest = false ∧ endpoint = none ∧ s' = t ∨
          features.dataIngest = true ∧ ∃ fields,
            answers (.ensureEndpointSecret config ns) t (.ok fields) s' ∧
              missingField? fields = none ∧ endpoint = some fields) := by
  rw [provision, steps_bind_ok]
  constructor
  · rintro ⟨⟨⟩, t, hinit, h⟩
    rw [steps_askInitSecret] at hinit
    refine ⟨t, hinit, ?_⟩
    cases hingest : features.dataIngest with
    | false =>
      rw [hingest] at h
      exact .inl ⟨rfl, steps_pure.mp h⟩
    | true =>
      rw [hingest, if_pos rfl, steps_bind_ok] at h
      obtain ⟨fields, u, hfields, h⟩ := h
      rw [steps_askEndpointSecret] at hfields
      cases hmissing : missingField? fields with
      | some key =>
        rw [hmissing] at h
        exact absurd h not_steps_throw
      | none =>
        rw [hmissing] at h
        obtain ⟨rfl, rfl⟩ := steps_pure.mp h
        exact .inr ⟨rfl, fields, hfields, hmissing, rfl⟩
  · rintro ⟨t, hinit, h⟩
    refine ⟨(), t, steps_askInitSecret.mpr hinit, ?_⟩
    rcases h with ⟨hingest, rfl, rfl⟩ | ⟨hingest, fields, hfields, hmissing, rfl⟩
    · rw [hingest]
      exact steps_pure.mpr ⟨rfl, rfl⟩
    · rw [hingest, if_pos rfl, steps_bind_ok]
      refine ⟨fields, s', steps_askEndpointSecret.mpr hfields, ?_⟩
      rw [hmissing]
      exact steps_pure.mpr ⟨rfl, rfl⟩

/-- A verdict that is announced. -/
theorem steps_announce_pure {reason : EventReason} {note : String} {v w : Verdict} :
    (announce config reason note >>= fun _ => pure w).run.Steps answers s (.ok v) s' ↔
      answers (.announce { about := config.metadata, reason, note }) s () s' ∧ v = w := by
  rw [steps_bind_ok]
  constructor
  · rintro ⟨⟨⟩, t, hannounce, hv⟩
    obtain ⟨rfl, rfl⟩ := steps_pure.mp hv
    exact ⟨steps_ask_done.mp (steps_lift.mp hannounce), rfl⟩
  · rintro ⟨hannounce, rfl⟩
    exact ⟨(), s', steps_lift.mpr (steps_ask_done.mpr hannounce), steps_pure.mpr ⟨rfl, rfl⟩⟩

/-- The event that tells of an injection. -/
def injectEvent (config : WorkloadConfig) (ns : String) (pod : Pod) : Event :=
  { about := config.metadata
    reason := .inject
    note := "Injecting the necessary info into pod " ++ pod.label ++ " in namespace " ++ ns }

/-- The event that tells of a repair. -/
def repairEvent (config : WorkloadConfig) (ns : String) (pod : Pod) : Event :=
  { about := config.metadata
    reason := .updatePod
    note := "Updating pod " ++ pod.label ++ " in namespace " ++ ns ++ " with missing containers" }

/-- The workload of the Pod is looked up if enrichment is on, and only then. -/
def Looked (answers : (q : Query) → σ → q.Answer → σ → Prop) (ws : WebhookSettings) (ns : String)
    (pod : Pod) (dataIngest : Bool) (s : σ) (workload : Option Workload) (s' : σ) : Prop :=
  match dataIngest with
  | false => workload = none ∧ s' = s
  | true => ∃ w, workload = some w ∧
      (Owner.resolve pod.metadata ns ws.ownerDepth).Steps answers s (.ok w) s'

/-- A workload is known where enrichment is on, and only there. -/
theorem isSome_of_looked {dataIngest : Bool} {workload : Option Workload}
    (h : Looked answers ws ns pod dataIngest s workload s') : workload.isSome = dataIngest := by
  cases dataIngest with
  | false =>
    rw [h.1]
    rfl
  | true =>
    obtain ⟨w, rfl, -⟩ := h
    rfl

/-- **An injection patches**, after the workload is looked up and the event is announced. -/
theorem steps_inject {v : Verdict} :
    (inject ws ns i pod).run.Steps answers s (.ok v) s' ↔
      ∃ workload t, Looked answers ws ns pod i.features.dataIngest s workload t ∧
        answers (.announce (injectEvent i.config ns pod)) t () s' ∧
        v = .patched ({ i with workload }.inject pod) i.config.previewWarnings := by
  rw [inject]
  cases hingest : i.features.dataIngest with
  | false =>
    rw [if_neg Bool.false_ne_true, steps_bind_ok]
    constructor
    · rintro ⟨workload, t, hpure, h⟩
      exact ⟨workload, t, steps_pure.mp hpure, steps_announce_pure.mp h⟩
    · rintro ⟨workload, t, hlooked, h⟩
      exact ⟨workload, t, steps_pure.mpr hlooked, steps_announce_pure.mpr h⟩
  | true =>
    rw [if_pos rfl, steps_bind_ok]
    constructor
    · rintro ⟨workload, t, hmap, h⟩
      obtain ⟨w, hresolve, hw⟩ := steps_map_ok.mp hmap
      exact ⟨workload, t, ⟨w, hw, steps_orElse.mp hresolve⟩, steps_announce_pure.mp h⟩
    · rintro ⟨workload, t, ⟨w, hw, hresolve⟩, h⟩
      exact ⟨workload, t, steps_map_ok.mpr ⟨w, steps_orElse.mpr hresolve, hw⟩,
        steps_announce_pure.mpr h⟩

/-- **A repair patches** if repairs are asked for and something is changed, after the event is
announced; otherwise nothing is asked and nothing changes. -/
theorem steps_repair {v : Verdict} :
    (repair ns i pod).run.Steps answers s (.ok v) s' ↔
      ((i.config.repairsPods && (i.repair pod).2) = false ∧ v = .unchanged none ∧ s' = s) ∨
      ((i.config.repairsPods && (i.repair pod).2) = true ∧
        answers (.announce (repairEvent i.config ns pod)) s () s' ∧
        v = .patched (i.repair pod).1 i.config.previewWarnings) := by
  rw [repair]
  cases h : i.config.repairsPods && (i.repair pod).2 with
  | false =>
    rw [if_neg Bool.false_ne_true, steps_pure]
    constructor
    · intro h
      exact .inl ⟨rfl, h⟩
    · rintro (⟨-, h⟩ | ⟨h, -⟩)
      · exact h
      · exact absurd h Bool.false_ne_true
  | true =>
    rw [if_pos rfl]
    constructor
    · intro h
      exact .inr ⟨rfl, steps_announce_pure.mp h⟩
    · rintro (⟨h, -⟩ | ⟨-, h⟩)
      · exact absurd h.symm Bool.false_ne_true
      · exact steps_announce_pure.mpr h

/-! ## 3. The decision -/

/-- A Pod gets as far as to be injected or repaired: its namespace is bound, the config injects
applications, some capability is on, and the secrets are provisioned. -/
structure Admitted (answers : (q : Query) → σ → q.Answer → σ → Prop) (ns : String) (pod : Pod)
    (s : σ) (found : Namespace) (config : WorkloadConfig) (endpoint : Option EndpointFields)
    (s' : σ) : Prop where
  injects : config.injectsApplications = true
  wanted : (features config pod).any = true
  asked : ∃ t, (binding ns).run.Steps answers s (.ok (found, config)) t ∧
    (provision config (features config pod) found.metadata.nameOrEmpty).run.Steps answers t
      (.ok endpoint) s'

/-- What the decision goes on with, once a Pod is admitted. -/
def act (ws : WebhookSettings) (ns : String) (i : Injection) (pod : Pod) : Attempt Verdict :=
  if pod.metadata.annotationMap.marksInjected then repair ns i pod else inject ws ns i pod

/-- **A verdict without note comes from an admitted Pod.** -/
theorem steps_decide {v : Verdict} (hv : ∀ note, v ≠ .unchanged (some note)) :
    (decide ws ns pod).run.Steps answers s (.ok v) s' ↔
      ∃ found config endpoint t, Admitted answers ns pod s found config endpoint t ∧
        (act ws found.metadata.nameOrEmpty (injection ws config pod endpoint) pod).run.Steps
          answers t (.ok v) s' := by
  rw [decide, steps_bind_ok]
  constructor
  · rintro ⟨⟨found, config⟩, t, hbinding, h⟩
    dsimp only at h
    cases hinjects : config.injectsApplications with
    | false =>
      rw [hinjects, if_pos (Bool.not_false)] at h
      exact absurd (steps_pure.mp h).1 (hv _)
    | true =>
      cases hwanted : (features config pod).any with
      | false =>
        rw [hinjects, hwanted, if_neg (by simp), if_pos (Bool.not_false)] at h
        exact absurd (steps_pure.mp h).1 (hv _)
      | true =>
        rw [hinjects, hwanted, if_neg (by simp), if_neg (by simp), steps_bind_ok] at h
        obtain ⟨endpoint, u, hprovision, h⟩ := h
        exact ⟨found, config, endpoint, u, ⟨hinjects, hwanted, t, hbinding, hprovision⟩, h⟩
  · rintro ⟨found, config, endpoint, t, ⟨hinjects, hwanted, u, hbinding, hprovision⟩, h⟩
    refine ⟨(found, config), u, hbinding, ?_⟩
    dsimp only
    rw [hinjects, hwanted, if_neg (by simp), if_neg (by simp), steps_bind_ok]
    exact ⟨endpoint, t, hprovision, h⟩

/-- **How a Pod comes to be patched**: it is admitted, and then injected if it has no marker, and
repaired if it has one, the config asks for repairs and something is missing. -/
theorem steps_decide_patched {p : Pod} {warnings : List String}
    (h : (decide ws ns pod).run.Steps answers s (.ok (.patched p warnings)) s') :
    ∃ found config endpoint t, Admitted answers ns pod s found config endpoint t ∧
      (act ws found.metadata.nameOrEmpty (injection ws config pod endpoint) pod).run.Steps answers t
        (.ok (.patched p warnings)) s' ∧
      (pod.metadata.annotationMap.marksInjected = false ∧
          (∃ workload, (workload.isSome = (features config pod).dataIngest) ∧
            p = ({ injection ws config pod endpoint with workload }.inject pod)) ∨
        pod.metadata.annotationMap.marksInjected = true ∧ config.repairsPods = true ∧
          p = ((injection ws config pod endpoint).repair pod).1) := by
  obtain ⟨found, config, endpoint, t, hadmitted, hact⟩ :=
    (steps_decide fun _ => Verdict.noConfusion).mp h
  refine ⟨found, config, endpoint, t, hadmitted, hact, ?_⟩
  rw [act] at hact
  cases hmarked : pod.metadata.annotationMap.marksInjected with
  | false =>
    rw [hmarked, if_neg Bool.false_ne_true, steps_inject] at hact
    obtain ⟨workload, u, hlooked, -, hv⟩ := hact
    exact .inl ⟨rfl, workload, isSome_of_looked hlooked, (Verdict.patched.inj hv).1⟩
  | true =>
    rw [hmarked, if_pos rfl, steps_repair] at hact
    rcases hact with ⟨-, hv, -⟩ | ⟨hrepairs, -, hv⟩
    · exact Verdict.noConfusion hv
    · exact .inr ⟨rfl, (Bool.and_eq_true _ _ ▸ hrepairs).1, (Verdict.patched.inj hv).1⟩

end Admission
end InjectionWebhook
