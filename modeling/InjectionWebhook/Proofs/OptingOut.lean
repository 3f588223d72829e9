/-
# Pods that ask for nothing

A Pod opts out by switching every capability off (`Pod.OptsOut`).  The decision about such a Pod is
no more than finding the config its namespace is bound to (`decide_eq_of_optsOut`): nothing else is
asked, so nothing else can fail.

The binding itself comes first for every Pod, and it can fail.  So an opted-out Pod is admitted
unchanged exactly where its namespace is bound to a config that can be read, and is refused for the
reason the binding gives everywhere else (`resolution_of_optsOut`).
-/
import InjectionWebhook.Proofs.Exits
import InjectionWebhook.Proofs.Settling

namespace InjectionWebhook

/-! ## 1. Switching everything off -/

/-- Annotations switch a capability off: its own switch says so, or it says nothing and the global
switch does. -/
def Dict.SwitchesOff (annotations : Dict String) (c : Capability) : Prop :=
  (annotations.get? c.switch).bind truth? = some false ∨
    (annotations.get? c.switch).bind truth? = none ∧
      (annotations.get? "beacon.dev/inject").bind truth? = some false

/-- The annotations of a Pod switch every capability off. -/
def Pod.OptsOut (p : Pod) : Prop := ∀ c, (p.metadata.annotations.getD .empty).SwitchesOff c

theorem Dict.asksFor_eq_false_iff (annotations : Dict String) (c : Capability) :
    annotations.asksFor c = false ↔ annotations.SwitchesOff c := by
  rw [Dict.asksFor, Dict.SwitchesOff]
  cases (annotations.get? c.switch).bind truth? with
  | some on => simp
  | none =>
    cases (annotations.get? "beacon.dev/inject").bind truth? with
    | some on => simp
    | none => simp

namespace Admission

open Dialogue

/-- A config can switch capabilities off, never on. -/
theorem any_features_of_optsOut {pod : Pod} (h : pod.OptsOut) (config : WorkloadConfig) :
    (features config pod).any = false := by
  rw [← Bool.not_eq_true, Features.any_eq_true_iff]
  rintro ⟨c, hc⟩
  have hasks := (Dict.asksFor_eq_false_iff _ c).mpr (h c)
  rw [enables_features, WorkloadConfig.turnsOn, hasks, Bool.false_and] at hc
  exact Bool.false_ne_true hc

/-! ## 2. The decision -/

/-- Why nothing is done about an opted-out Pod under a config. -/
def offNote (config : WorkloadConfig) : String :=
  if config.AsksForInjection then "no features are enabled, skipping injection"
  else "app injection is disabled"

/-- **Opting out leaves only the binding to do.** -/
theorem decide_eq_of_optsOut {pod : Pod} (h : pod.OptsOut) (ws : WebhookSettings) (ns : String) :
    decide ws ns pod = do
      let (_, config) ← binding ns
      return .unchanged (some (offNote config)) := by
  unfold decide
  refine congrArg (binding ns >>= ·) (funext fun (found, config) => ?_)
  dsimp only
  rw [any_features_of_optsOut h config, offNote]
  simp only [← WorkloadConfig.injectsApplications_iff]
  cases config.injectsApplications <;> rfl

/-- How the decision about an opted-out Pod goes, by the answers to the two questions that find the
binding. -/
structure Resolution (answer : (q : Query) → q.Answer) (ns : String)
    (outcome : Except AdmissionError Verdict) (asked : List Query) : Prop where
  /-- The namespace is bound to a config that is read: the Pod stays as it is. -/
  bound : ∀ found name config, Bound answer ns found name config →
    outcome = .ok (.unchanged (some (offNote config))) ∧ asked = lookUps ns name
  /-- The namespace is not read. -/
  unread : ∀ e, answer (.namespace_ ns) = .error e →
    outcome = .error (.namespaceLookup ns e) ∧ asked = [.namespace_ ns]
  /-- The namespace is not bound. -/
  unlabelled : ∀ found, answer (.namespace_ ns) = .ok found → boundTo? found = none →
    outcome = .error (.unbound ns) ∧ asked = [.namespace_ ns]
  /-- There is no config to be bound to. -/
  missing : ∀ found name, answer (.namespace_ ns) = .ok found → boundTo? found = some name →
    answer (.workloadConfig name) = .ok none →
    outcome = .error (.configMissing name ns) ∧ asked = lookUps ns name
  /-- The config is not read. -/
  failing : ∀ found name e, answer (.namespace_ ns) = .ok found → boundTo? found = some name →
    answer (.workloadConfig name) = .error e →
    outcome = .error (if e.MeansAbsent then .configMissing name ns else .configLookup name e) ∧
      asked = lookUps ns name

/-- **An opted-out Pod stays as it is wherever its namespace is bound**, and is refused for what the
binding lacks everywhere else; no question beside those that find the binding is asked. -/
theorem resolution_of_optsOut {pod : Pod} (h : pod.OptsOut) (answer : (q : Query) → q.Answer)
    (ws : WebhookSettings) (ns : String) :
    Resolution answer ns ((decide ws ns pod).run.run answer).1
      ((decide ws ns pod).run.run answer).2 where
  bound := by
    intro found name config hbound
    rw [decide_eq_of_optsOut h, run_bind_ok (run_binding_of_bound hbound)]
    exact ⟨rfl, List.append_nil _⟩
  unread := by
    intro e hfailed
    rw [decide_eq_of_optsOut h, run_bind_error (run_binding_of_error hfailed)]
    exact ⟨rfl, rfl⟩
  unlabelled := by
    intro found hread hlabel
    rw [decide_eq_of_optsOut h, run_bind_error (run_binding_of_unlabelled hread hlabel)]
    exact ⟨rfl, rfl⟩
  missing := by
    intro found name hread hlabel habsent
    have hbinding := run_binding_of_label hread hlabel
    rw [habsent] at hbinding
    rw [decide_eq_of_optsOut h, run_bind_error hbinding]
    exact ⟨rfl, rfl⟩
  failing := by
    intro found name e hread hlabel hfailed
    have hbinding := run_binding_of_label hread hlabel
    rw [hfailed] at hbinding
    rw [decide_eq_of_optsOut h, run_bind_error hbinding]
    simp only [Failure.isNotFound_iff, and_self]

/-- A Pod that switches one capability off by its own switch and the rest by the global one. -/
def quietPod : Pod :=
  { metadata :=
      { annotations := some (.ofList
          [("oneagent.beacon.dev/inject", "F"), ("data-ingest.beacon.dev/inject", "never"),
            ("beacon.dev/inject", "0")]) } }

theorem optsOut_quietPod : quietPod.OptsOut := by
  intro c
  cases c with
  | oneAgent => exact .inl rfl
  | dataIngest => exact .inr ⟨rfl, rfl⟩

/-- In a bound namespace it is admitted unchanged, although no secret could be made sure of. -/
theorem quietPod_unchanged :
    quietPod.OptsOut ∧
      ((decide shopSettings "shop" quietPod).run.run
        { shopCluster with initSecret := .error (.internal "unknown" "down") }.answer).1 =
        .ok (.unchanged (some "no features are enabled, skipping injection")) :=
  ⟨optsOut_quietPod,
    ((resolution_of_optsOut optsOut_quietPod _ shopSettings "shop").bound _ "shop-config"
      shopConfig ⟨rfl, rfl, rfl⟩).1⟩

/-- **Opting out is not always enough**: in a namespace without binding the Pod is refused. -/
theorem quietPod_refused :
    quietPod.OptsOut ∧
      ((decide shopSettings "lab" quietPod).run.run
        ({ namespaces := .ofList [("lab", .ok {})] } : ClusterScript).answer).1 =
        .error (.unbound "lab") :=
  ⟨optsOut_quietPod, rfl⟩

end Admission
end InjectionWebhook
