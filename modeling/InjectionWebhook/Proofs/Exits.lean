/-
# The exits of an admission

An admission asks its questions in one fixed order and leaves at one of fourteen exits.  `Exit` lists
them: for each exit the answers that lead there, the questions that were asked up to it, and the
outcome with the code it is reported under.  `decide_exits` says that an admission leaves exactly at
the exit its answers lead to, and what all exits have in common (`Orderly`): nothing is asked after a
question that failed, a failed question ends in an error, and an event is announced last, if the Pod
was patched, and only then.

* `run_bind_ok`, `run_bind_error`: what a dialogue that may fail does in two parts;
* `fetches_walk`: the walk to the workload asks for owners only, and stops at the first that fails;
* `run_of_exit`: from an exit to the run, one case for each exit;
* `exists_exit`: some exit is always taken.
-/
import InjectionWebhook.Proofs.Decision

namespace InjectionWebhook

/-! ## 1. Runs of dialogues that may fail -/

namespace Dialogue

section Runs

variable {Q : Type} {A : Q → Type} {α β ε : Type} {answer : (q : Q) → A q}
variable {x : ExceptT ε (Dialogue Q A) α} {f : α → ExceptT ε (Dialogue Q A) β} {asked : List Q}

/-- A question on its own. -/
theorem run_ask_done {q : Q} {r : A q} (h : answer q = r) :
    (Dialogue.ask q .done).run answer = (r, [q]) := by
  rw [run_ask, run_done, h]

/-- A dialogue goes on with the value of its first part. -/
theorem run_bind_ok {a : α} (h : x.run.run answer = (.ok a, asked)) :
    (x >>= f).run.run answer =
      (((f a).run.run answer).1, asked ++ ((f a).run.run answer).2) := by
  rw [run_bind_except, run_bind, h]

/-- A dialogue whose first part fails asks nothing more. -/
theorem run_bind_error {e : ε} (h : x.run.run answer = (.error e, asked)) :
    (x >>= f).run.run answer = (.error e, asked) := by
  rw [run_bind_except, run_bind, h, run_done, List.append_nil]

theorem run_map_ok {g : α → β} {a : α} (h : x.run.run answer = (.ok a, asked)) :
    (g <$> x).run.run answer = (.ok (g a), asked) := by
  change (x >>= fun a => pure (g a)).run.run answer = _
  rw [run_bind_ok h]
  exact congrArg (Prod.mk _) (List.append_nil asked)

theorem run_map_error {g : α → β} {e : ε} (h : x.run.run answer = (.error e, asked)) :
    (g <$> x).run.run answer = (.error e, asked) := by
  change (x >>= fun a => pure (g a)).run.run answer = _
  exact run_bind_error h

end Runs

end Dialogue

/-! ## 2. Questions that fail -/

/-- The failure in an answer. -/
def failureIn? {α : Type} : Except Failure α → Option Failure
  | .error e => some e
  | .ok _ => none

/-- The failure a question is answered by; an announcement is never answered by one. -/
def Query.failure? : (q : Query) → q.Answer → Option Failure
  | .namespace_ _, (r : Except Failure Namespace) => failureIn? r
  | .workloadConfig _, (r : Except Failure (Option WorkloadConfig)) => failureIn? r
  | .owner _ _, (r : Except Failure ObjectMeta) => failureIn? r
  | .ensureInitSecret _ _, (r : Except Failure Unit) => failureIn? r
  | .ensureEndpointSecret _ _, (r : Except Failure EndpointFields) => failureIn? r
  | .announce _, _ => none

section Fixed

variable (answer : (q : Query) → q.Answer)

/-- No question is answered by a failure. -/
def Clean (asked : List Query) : Prop := ∀ q ∈ asked, q.failure? (answer q) = none

/-- Nothing is asked after a question that failed. -/
def Cut (asked : List Query) : Prop := Clean answer asked.dropLast

variable {answer}

theorem Clean.cut {asked : List Query} (h : Clean answer asked) : Cut answer asked :=
  fun q hq => h q (List.dropLast_subset asked hq)

theorem Clean.append {first rest : List Query} (h : Clean answer first)
    (h' : Clean answer rest) : Clean answer (first ++ rest) := by
  intro q hq
  rcases List.mem_append.mp hq with hq | hq
  · exact h q hq
  · exact h' q hq

theorem Clean.append_cut {first rest : List Query} (h : Clean answer first)
    (h' : Cut answer rest) : Cut answer (first ++ rest) := by
  cases rest with
  | nil =>
    rw [List.append_nil]
    exact h.cut
  | cons q rest =>
    rw [Cut, List.dropLast_append_of_ne_nil (List.cons_ne_nil q rest)]
    exact h.append h'

theorem clean_singleton {q : Query} (h : q.failure? (answer q) = none) : Clean answer [q] := by
  intro q' hq'
  rw [List.mem_singleton.mp hq']
  exact h

theorem cut_singleton (q : Query) : Cut answer [q] := fun _ h => absurd h List.not_mem_nil

end Fixed

/-! ## 3. The walk to the workload -/

namespace Owner

/-- What the walk asks: owners in one namespace, up to the first that fails; a failed question is the
result of the walk. -/
structure Fetches (answer : (q : Query) → q.Answer) (ns : String) (r : Except Failure Workload)
    (asked : List Query) : Prop where
  owners : ∀ q ∈ asked, ∃ ref, q = .owner ref ns
  cut : Cut answer asked
  failed : ∀ q ∈ asked, ∀ e, q.failure? (answer q) = some e → r = .error e

theorem fetches_nil {answer : (q : Query) → q.Answer} {ns : String}
    {r : Except Failure Workload} : Fetches answer ns r [] where
  owners := fun _ h => absurd h List.not_mem_nil
  cut := fun _ h => absurd h List.not_mem_nil
  failed := fun _ h => absurd h List.not_mem_nil

/-- **The walk fetches owners only**, and stops at the first that fails. -/
theorem fetches_walk (answer : (q : Query) → q.Answer) (ns : String) (depth left : Nat)
    (visited : List (String × String)) (current : Workload)
    (owners : Option (List OwnerReference)) :
    Fetches answer ns ((walk ns depth left visited current owners).run answer).1
      ((walk ns depth left visited current owners).run answer).2 := by
  fun_induction walk ns depth left visited current owners with
  | case1 => exact fetches_nil
  | case2 => exact fetches_nil
  | case3 => exact fetches_nil
  | case4 => exact fetches_nil
  | case5 visited current owners o _ _ left _ ih =>
    rw [Dialogue.run_ask]
    cases hfetched : answer (.owner o ns) with
    | error e =>
      have hfailure : (Query.owner o ns).failure? (answer (.owner o ns)) = some e := by
        rw [hfetched]; rfl
      refine ⟨fun q hq => ⟨o, List.mem_singleton.mp hq⟩, cut_singleton _, fun q hq e' he' => ?_⟩
      rw [List.mem_singleton.mp hq, hfailure] at he'
      rw [← Option.some.inj he']
      rfl
    | ok fetched =>
      have hanswered : (Query.owner o ns).failure? (answer (.owner o ns)) = none := by
        rw [hfetched]; rfl
      have hclean : Clean answer [.owner o ns] := clean_singleton hanswered
      obtain ⟨howners, hcut, hfailed⟩ := ih fetched
      refine ⟨fun q hq => ?_, ?_, fun q hq e he => ?_⟩
      · rcases List.mem_cons.mp hq with rfl | hq
        · exact ⟨o, rfl⟩
        · exact howners q hq
      · exact hclean.append_cut hcut
      · rcases List.mem_cons.mp hq with rfl | hq
        · rw [hanswered] at he
          exact absurd he (by simp)
        · exact hfailed q hq e he

/-- The walk from the Pod leads to a result, with the owners that were asked for. -/
structure Walked (answer : (q : Query) → q.Answer) (ws : WebhookSettings) (ns : String) (pod : Pod)
    (r : Except Failure Workload) (owners : List Query) : Prop where
  run : (resolve pod.metadata ns ws.ownerDepth).run answer = (r, owners)
  fetches : Fetches answer ns r owners

/-- A walk that arrives met no failure. -/
theorem Walked.clean {answer : (q : Query) → q.Answer} {ws : WebhookSettings} {ns : String}
    {pod : Pod} {w : Workload} {owners : List Query} (h : Walked answer ws ns pod (.ok w) owners) :
    Clean answer owners := by
  intro q hq
  cases hfailure : q.failure? (answer q) with
  | none => rfl
  | some e => exact absurd (h.fetches.failed q hq e hfailure) (by simp)

theorem walked_run (answer : (q : Query) → q.Answer) (ws : WebhookSettings) (ns : String)
    (pod : Pod) :
    ∃ r owners, Walked answer ws ns pod r owners := by
  exact ⟨_, _, rfl, fetches_walk answer ns ws.ownerDepth ws.ownerDepth [] _ _⟩

end Owner

namespace Admission

open Dialogue

/-! ## 4. The exits -/

/-- The config a namespace is bound to, by its label. -/
def boundTo? (found : Namespace) : Option String :=
  (found.metadata.labels.getD .empty).get? "beacon.dev/instance"

/-- The namespace an admission works in, by the name that was read. -/
def homeOf (found : Namespace) : String := found.metadata.name.getD ""

/-- The questions that find the binding of a namespace. -/
def lookUps (ns name : String) : List Query := [.namespace_ ns, .workloadConfig name]

/-- The questions that make sure of the secrets. -/
def provisions (config : WorkloadConfig) (home : String) (dataIngest : Bool) : List Query :=
  .ensureInitSecret config home ::
    if dataIngest then [.ensureEndpointSecret config home] else []

/-- An outcome, an error with the code it is reported under. -/
abbrev Report := Except (AdmissionError × Nat) Verdict

/-- The report of an outcome. -/
def reported (outcome : Except AdmissionError Verdict) : Report :=
  outcome.mapError fun e => (e, e.code)

section Exits

variable (answer : (q : Query) → q.Answer)

/-- The namespace is found, and it is bound to a config that is found. -/
structure Bound (ns : String) (found : Namespace) (name : String) (config : WorkloadConfig) :
    Prop where
  read : answer (.namespace_ ns) = .ok found
  label : boundTo? found = some name
  target : answer (.workloadConfig name) = .ok (some config)

/-- The config injects applications, and the Pod has some capability on under it. -/
structure Wanted (ns : String) (pod : Pod) (found : Namespace) (name : String)
    (config : WorkloadConfig) : Prop where
  bound : Bound answer ns found name config
  injects : config.AsksForInjection
  any : ∃ c, config.turnsOn pod c = true

/-- The endpoint is asked for where enrichment is on, and then none of its fields is missing. -/
def Known (config : WorkloadConfig) (home : String) : Bool → Option EndpointFields → Prop
  | false, endpoint => endpoint = none
  | true, endpoint => ∃ fields, answer (.ensureEndpointSecret config home) = .ok fields ∧
      (∀ key, ¬ FirstLacking fields key) ∧ endpoint = some fields

/-- The secrets are there, and the endpoint is known. -/
structure Ready (ns : String) (pod : Pod) (found : Namespace) (name : String)
    (config : WorkloadConfig) (endpoint : Option EndpointFields) : Prop where
  wanted : Wanted answer ns pod found name config
  init : answer (.ensureInitSecret config (homeOf found)) = .ok ()
  known : Known answer config (homeOf found) (config.turnsOn pod .dataIngest) endpoint

/-- The workload is looked for where enrichment is on, and found. -/
def Located (ws : WebhookSettings) (home : String) (pod : Pod) :
    Bool → Option Workload → List Query → Prop
  | false, workload, owners => workload = none ∧ owners = []
  | true, workload, owners => ∃ w, workload = some w ∧
      Owner.Walked answer ws home pod (.ok w) owners

/-- The exits of an admission: what was asked up to there, and what is reported. -/
inductive Exit (ws : WebhookSettings) (ns : String) (pod : Pod) : List Query → Report → Prop
  /-- The namespace cannot be read, or is not found. -/
  | namespaceFailed {e : Failure} (failed : answer (.namespace_ ns) = .error e) :
      Exit ws ns pod [.namespace_ ns] (.error (.namespaceLookup ns e, 500))
  /-- The namespace has no binding label. -/
  | unbound {found : Namespace} (read : answer (.namespace_ ns) = .ok found)
      (unlabelled : boundTo? found = none) :
      Exit ws ns pod [.namespace_ ns] (.error (.unbound ns, 400))
  /-- There is no config with the name in the label. -/
  | configAbsent {found : Namespace} {name : String} (read : answer (.namespace_ ns) = .ok found)
      (label : boundTo? found = some name) (absent : answer (.workloadConfig name) = .ok none) :
      Exit ws ns pod (lookUps ns name) (.error (.configMissing name ns, 400))
  /-- The cluster answers that the config is not found. -/
  | configNotFound {found : Namespace} {name : String} {e : Failure}
      (read : answer (.namespace_ ns) = .ok found) (label : boundTo? found = some name)
      (failed : answer (.workloadConfig name) = .error e) (absent : e.MeansAbsent) :
      Exit ws ns pod (lookUps ns name) (.error (.configMissing name ns, 400))
  /-- The config cannot be read for another reason. -/
  | configFailed {found : Namespace} {name : String} {e : Failure}
      (read : answer (.namespace_ ns) = .ok found) (label : boundTo? found = some name)
      (failed : answer (.workloadConfig name) = .error e) (other : ¬ e.MeansAbsent) :
      Exit ws ns pod (lookUps ns name) (.error (.configLookup name e, 500))
  /-- The config injects no applications. -/
  | injectionOff {found : Namespace} {name : String} {config : WorkloadConfig}
      (bound : Bound answer ns found name config) (off : ¬ config.AsksForInjection) :
      Exit ws ns pod (lookUps ns name) (.ok (.unchanged (some "app injection is disabled")))
  /-- Every capability is off. -/
  | featuresOff {found : Namespace} {name : String} {config : WorkloadConfig}
      (bound : Bound answer ns found name config) (injects : config.AsksForInjection)
      (off : ∀ c, config.turnsOn pod c = false) :
      Exit ws ns pod (lookUps ns name)
        (.ok (.unchanged (some "no features are enabled, skipping injection")))
  /-- The injection config secret cannot be made sure of. -/
  | initFailed {found : Namespace} {name : String} {config : WorkloadConfig} {e : Failure}
      (wanted : Wanted answer ns pod found name config)
      (failed : answer (.ensureInitSecret config (homeOf found)) = .error e) :
      Exit ws ns pod
        (lookUps ns name ++ [.ensureInitSecret config (homeOf found)])
        (.error (.secrets (homeOf found) e, 400))
  /-- The endpoint secret cannot be made sure of. -/
  | endpointFailed {found : Namespace} {name : String} {config : WorkloadConfig} {e : Failure}
      (wanted : Wanted answer ns pod found name config)
      (init : answer (.ensureInitSecret config (homeOf found)) = .ok ())
      (dataIngest : config.turnsOn pod .dataIngest = true)
      (failed : answer (.ensureEndpointSecret config (homeOf found)) = .error e) :
      Exit ws ns pod
        (lookUps ns name ++ provisions config (homeOf found) true)
        (.error (.secrets (homeOf found) e, 400))
  /-- A field of the endpoint is missing or empty. -/
  | endpointIncomplete {found : Namespace} {name : String} {config : WorkloadConfig}
      {fields : EndpointFields} {key : String}
      (wanted : Wanted answer ns pod found name config)
      (init : answer (.ensureInitSecret config (homeOf found)) = .ok ())
      (dataIngest : config.turnsOn pod .dataIngest = true)
      (read : answer (.ensureEndpointSecret config (homeOf found)) = .ok fields)
      (missing : FirstLacking fields key) :
      Exit ws ns pod
        (lookUps ns name ++ provisions config (homeOf found) true)
        (.error (.secrets (homeOf found)
          (.invalid key "data-ingest endpoint field is missing"), 400))
  /-- The workload of a Pod without marker is not found. -/
  | ownerFailed {found : Namespace} {name : String} {config : WorkloadConfig}
      {endpoint : Option EndpointFields} {e : Failure} {owners : List Query}
      (ready : Ready answer ns pod found name config endpoint)
      (unmarked : ¬ pod.Marked)
      (dataIngest : config.turnsOn pod .dataIngest = true)
      (walked : Owner.Walked answer ws (homeOf found) pod (.error e) owners) :
      Exit ws ns pod
        (lookUps ns name ++ provisions config (homeOf found) true ++ owners)
        (.error (.owner pod.label e, 500))
  /-- A Pod without marker is injected. -/
  | injected {found : Namespace} {name : String} {config : WorkloadConfig}
      {endpoint : Option EndpointFields} {workload : Option Workload} {owners : List Query}
      (ready : Ready answer ns pod found name config endpoint)
      (unmarked : ¬ pod.Marked)
      (located : Located answer ws (homeOf found) pod (config.turnsOn pod .dataIngest)
        workload owners) :
      Exit ws ns pod
        (lookUps ns name ++
          provisions config (homeOf found) (config.turnsOn pod .dataIngest) ++
          owners ++ [.announce (injectEvent config (homeOf found) pod)])
        (.ok (.patched ({ injection ws config pod endpoint with workload }.inject pod)
          config.previewWarnings))
  /-- A Pod with marker is left alone: repairs are not asked for, or nothing is missing. -/
  | settled {found : Namespace} {name : String} {config : WorkloadConfig}
      {endpoint : Option EndpointFields} (ready : Ready answer ns pod found name config endpoint)
      (marked : pod.Marked)
      (idle : config.spec.features.enableWebhookReinvocationPolicy = false ∨
        ((injection ws config pod endpoint).repair pod).2 = false) :
      Exit ws ns pod
        (lookUps ns name ++
          provisions config (homeOf found) (config.turnsOn pod .dataIngest))
        (.ok (.unchanged none))
  /-- A Pod with marker is repaired. -/
  | repaired {found : Namespace} {name : String} {config : WorkloadConfig}
      {endpoint : Option EndpointFields} (ready : Ready answer ns pod found name config endpoint)
      (marked : pod.Marked)
      (repairs : config.spec.features.enableWebhookReinvocationPolicy = true)
      (changed : ((injection ws config pod endpoint).repair pod).2 = true) :
      Exit ws ns pod
        (lookUps ns name ++
          provisions config (homeOf found) (config.turnsOn pod .dataIngest) ++
          [.announce (repairEvent config (homeOf found) pod)])
        (.ok (.patched ((injection ws config pod endpoint).repair pod).1 config.previewWarnings))

end Exits

variable {answer : (q : Query) → q.Answer} {ws : WebhookSettings} {ns : String} {pod : Pod}
variable {found : Namespace} {name : String} {config : WorkloadConfig}
variable {endpoint : Option EndpointFields}

/-! ## 5. From an exit to the run -/

section Stages

variable {α : Type} {d : ClusterDialogue (Except Failure α)} {wrap : Failure → AdmissionError}
variable {asked : List Query} {e : Failure}

theorem run_orElse_ok {a : α} (h : d.run answer = (.ok a, asked)) :
    (orElse d wrap).run.run answer = (.ok a, asked) := by
  change (d.bind fun r => .done (r.mapError wrap)).run answer = _
  rw [run_bind, h]
  exact congrArg (Prod.mk _) (List.append_nil asked)

theorem run_orElse_error (h : d.run answer = (.error e, asked)) :
    (orElse d wrap).run.run answer = (.error (wrap e), asked) := by
  change (d.bind fun r => .done (r.mapError wrap)).run answer = _
  rw [run_bind, h]
  exact congrArg (Prod.mk _) (List.append_nil asked)

/-- A binding needs the namespace. -/
theorem run_binding_of_error (failed : answer (.namespace_ ns) = .error e) :
    (binding ns).run.run answer = (.error (.namespaceLookup ns e), [.namespace_ ns]) := by
  have hread : (Query.askNamespace ns).run answer = (.error e, [.namespace_ ns]) :=
    run_ask_done failed
  rw [binding, run_bind_error (run_orElse_error hread)]

/-- A binding needs the label. -/
theorem run_binding_of_unlabelled (read : answer (.namespace_ ns) = .ok found)
    (unlabelled : boundTo? found = none) :
    (binding ns).run.run answer = (.error (.unbound ns), [.namespace_ ns]) := by
  have hread : (Query.askNamespace ns).run answer = (.ok found, [.namespace_ ns]) :=
    run_ask_done read
  have hlabel : (found.metadata.labels.getD .empty).get? bindingLabel = none := unlabelled
  rw [binding, run_bind_ok (run_orElse_ok hread), hlabel]
  rfl

/-- A binding needs the config that the label names. -/
theorem run_binding_of_label (read : answer (.namespace_ ns) = .ok found)
    (label : boundTo? found = some name) :
    (binding ns).run.run answer =
      (match answer (.workloadConfig name) with
        | .ok (some config) => .ok (found, config)
        | .ok none => .error (.configMissing name ns)
        | .error e =>
          .error (if e.isNotFound then .configMissing name ns else .configLookup name e),
        lookUps ns name) := by
  have hread : (Query.askNamespace ns).run answer = (.ok found, [.namespace_ ns]) :=
    run_ask_done read
  have hlabel : (found.metadata.labels.getD .empty).get? bindingLabel = some name := label
  have htarget : (Query.askWorkloadConfig name).run answer =
      (answer (.workloadConfig name), [.workloadConfig name]) := run_ask_done rfl
  rw [binding, run_bind_ok (run_orElse_ok hread), hlabel]
  dsimp only
  cases hconfig : answer (.workloadConfig name) with
  | error e =>
    rw [hconfig] at htarget
    rw [run_bind_error (run_orElse_error htarget)]
    rfl
  | ok config? =>
    rw [hconfig] at htarget
    rw [run_bind_ok (run_orElse_ok htarget)]
    cases config? <;> rfl

theorem run_binding_of_bound (h : Bound answer ns found name config) :
    (binding ns).run.run answer = (.ok (found, config), lookUps ns name) := by
  rw [run_binding_of_label h.read h.label, h.target]

/-- Without a binding the admission ends. -/
theorem run_decide_of_error {e : AdmissionError}
    (h : (binding ns).run.run answer = (.error e, asked)) :
    (decide ws ns pod).run.run answer = (.error e, asked) := by
  rw [decide, run_bind_error h]

/-- The provision fails with the injection config secret. -/
theorem run_provision_of_init {home : String}
    (failed : answer (.ensureInitSecret config home) = .error e) (f : Features) :
    (provision config f home).run.run answer =
      (.error (.secrets home e), [.ensureInitSecret config home]) := by
  have hinit : (Query.askInitSecret config home).run answer =
      (.error e, [.ensureInitSecret config home]) := run_ask_done failed
  rw [provision, run_bind_error (run_orElse_error hinit)]

/-- After the injection config secret the endpoint is asked for, if enrichment is on. -/
theorem run_provision_of_endpoint {home : String}
    (init : answer (.ensureInitSecret config home) = .ok ()) {f : Features}
    (dataIngest : f.dataIngest = true) :
    (provision config f home).run.run answer =
      (match answer (.ensureEndpointSecret config home) with
        | .error e => .error (.secrets home e)
        | .ok fields =>
          match missingField? fields with
          | some key =>
            .error (.secrets home (.invalid key "data-ingest endpoint field is missing"))
          | none => .ok (some fields),
        provisions config home true) := by
  have hinit : (Query.askInitSecret config home).run answer =
      (.ok (), [.ensureInitSecret config home]) := run_ask_done init
  have hendpoint : (Query.askEndpointSecret config home).run answer =
      (answer (.ensureEndpointSecret config home), [.ensureEndpointSecret config home]) :=
    run_ask_done rfl
  rw [provision, run_bind_ok (run_orElse_ok hinit), dataIngest, if_pos rfl]
  cases hfields : answer (.ensureEndpointSecret config home) with
  | error e =>
    rw [hfields] at hendpoint
    rw [run_bind_error (run_orElse_error hendpoint)]
    rfl
  | ok fields =>
    rw [hfields] at hendpoint
    rw [run_bind_ok (run_orElse_ok hendpoint)]
    dsimp only
    cases missingField? fields <;> rfl

theorem run_provision_of_known {home : String} {f : Features}
    (init : answer (.ensureInitSecret config home) = .ok ())
    (known : Known answer config home f.dataIngest endpoint) :
    (provision config f home).run.run answer =
      (.ok endpoint, provisions config home f.dataIngest) := by
  cases hingest : f.dataIngest with
  | true =>
    rw [hingest] at known
    obtain ⟨fields, hfields, hcomplete, rfl⟩ := known
    rw [run_provision_of_endpoint init hingest, hfields]
    dsimp only
    rw [missingField?_eq_none_iff.mpr hcomplete]
  | false =>
    rw [hingest] at known
    have hinit : (Query.askInitSecret config home).run answer =
        (.ok (), [.ensureInitSecret config home]) := run_ask_done init
    have hnone : endpoint = none := known
    rw [provision, run_bind_ok (run_orElse_ok hinit), hingest, if_neg Bool.false_ne_true, hnone]
    rfl

/-- Whatever is decided about a Pod that is wanted is decided after the look-ups, and needs the
secrets. -/
theorem run_decide_of_wanted (h : Wanted answer ns pod found name config) :
    (decide ws ns pod).run.run answer =
      (((provision config (features config pod) (homeOf found) >>= fun endpoint =>
          act ws (homeOf found) (injection ws config pod endpoint) pod).run.run
            answer).1,
        lookUps ns name ++
          ((provision config (features config pod) (homeOf found) >>= fun endpoint =>
            act ws (homeOf found) (injection ws config pod endpoint) pod).run.run
              answer).2) := by
  rw [decide, run_bind_ok (run_binding_of_bound h.bound)]
  have hinjects : config.injectsApplications = true :=
    WorkloadConfig.injectsApplications_iff.mpr h.injects
  have hany : (features config pod).any = true := any_features_iff.mpr h.any
  dsimp only
  rw [hinjects, hany, if_neg (by simp), if_neg (by simp)]
  rfl

theorem run_decide_of_unprovisioned {e : AdmissionError}
    (h : Wanted answer ns pod found name config)
    (failed : (provision config (features config pod) (homeOf found)).run.run answer =
      (.error e, asked)) :
    (decide ws ns pod).run.run answer = (.error e, lookUps ns name ++ asked) := by
  rw [run_decide_of_wanted h, run_bind_error failed]

/-- A Pod that is ready is injected or repaired. -/
theorem run_decide_of_ready (h : Ready answer ns pod found name config endpoint) :
    (decide ws ns pod).run.run answer =
      (((act ws (homeOf found) (injection ws config pod endpoint) pod).run.run
          answer).1,
        lookUps ns name ++
          provisions config (homeOf found) (config.turnsOn pod .dataIngest) ++
          ((act ws (homeOf found) (injection ws config pod endpoint) pod).run.run
            answer).2) := by
  have hknown := h.known
  rw [← dataIngest_features] at hknown ⊢
  rw [run_decide_of_wanted h.wanted, run_bind_ok (run_provision_of_known h.init hknown),
    List.append_assoc]

/-- An injection is given up where the workload is not found. -/
theorem run_inject_of_error {home : String} {i : Injection} {owners : List Query}
    (dataIngest : i.features.dataIngest = true)
    (walked : Owner.Walked answer ws home pod (.error e) owners) :
    (inject ws home i pod).run.run answer = (.error (.owner pod.label e), owners) := by
  rw [inject, dataIngest, if_pos rfl,
    run_bind_error (run_map_error (run_orElse_error walked.run))]

/-- An injection is announced after the workload is found. -/
theorem run_inject_of_located {home : String} {i : Injection} {workload : Option Workload}
    {owners : List Query}
    (located : Located answer ws home pod i.features.dataIngest workload owners) :
    (inject ws home i pod).run.run answer =
      (.ok (.patched ({ i with workload }.inject pod) i.config.previewWarnings),
        owners ++ [.announce (injectEvent i.config home pod)]) := by
  cases hingest : i.features.dataIngest with
  | true =>
    rw [hingest] at located
    obtain ⟨w, rfl, hwalked⟩ := located
    rw [inject, hingest, if_pos rfl, run_bind_ok (run_map_ok (run_orElse_ok hwalked.run))]
    rfl
  | false =>
    rw [hingest] at located
    obtain ⟨rfl, rfl⟩ := located
    rw [inject, hingest, if_neg Bool.false_ne_true]
    rfl

/-- A Pod without marker is injected, -/
theorem act_of_unmarked (unmarked : ¬ pod.Marked) (home : String) (i : Injection) :
    act ws home i pod = inject ws home i pod := by
  rw [act, Pod.not_marked_iff.mpr unmarked, if_neg Bool.false_ne_true]

/-- and one with a marker is repaired. -/
theorem act_of_marked (marked : pod.Marked) (home : String) (i : Injection) :
    act ws home i pod = repair home i pod := by
  rw [act, Pod.marked_iff.mpr marked, if_pos rfl]

/-- A repair that is asked for and changes the Pod is announced. -/
theorem run_repair_of_changed {home : String} {i : Injection} (repairs : i.config.repairsPods = true)
    (changed : (i.repair pod).2 = true) :
    (repair home i pod).run.run answer =
      (.ok (.patched (i.repair pod).1 i.config.previewWarnings),
        [.announce (repairEvent i.config home pod)]) := by
  rw [repair, repairs, changed]
  rfl

/-- Any other repair asks nothing. -/
theorem run_repair_of_idle {home : String} {i : Injection}
    (idle : i.config.repairsPods = false ∨ (i.repair pod).2 = false) :
    (repair home i pod).run.run answer = (.ok (.unchanged none), []) := by
  have hidle : (i.config.repairsPods && (i.repair pod).2) = false := by
    rcases idle with idle | idle
    · rw [idle, Bool.false_and]
    · rw [idle, Bool.and_false]
  rw [repair, hidle]
  rfl

end Stages

/-- **What an admission does where its answers lead to an exit.** -/
theorem run_of_exit {asked : List Query} {report : Report}
    (h : Exit answer ws ns pod asked report) :
    reported ((decide ws ns pod).run.run answer).1 = report ∧
      ((decide ws ns pod).run.run answer).2 = asked := by
  cases h with
  | namespaceFailed failed =>
    rw [run_decide_of_error (run_binding_of_error failed)]
    exact ⟨rfl, rfl⟩
  | unbound read unlabelled =>
    rw [run_decide_of_error (run_binding_of_unlabelled read unlabelled)]
    exact ⟨rfl, rfl⟩
  | configAbsent read label absent =>
    have hbinding := run_binding_of_label read label
    rw [absent] at hbinding
    rw [run_decide_of_error hbinding]
    exact ⟨rfl, rfl⟩
  | configNotFound read label failed absent =>
    have hbinding := run_binding_of_label read label
    rw [failed] at hbinding
    dsimp only at hbinding
    rw [if_pos (Failure.isNotFound_iff.mpr absent)] at hbinding
    rw [run_decide_of_error hbinding]
    exact ⟨rfl, rfl⟩
  | configFailed read label failed other =>
    have hbinding := run_binding_of_label read label
    rw [failed] at hbinding
    dsimp only at hbinding
    rw [if_neg (mt Failure.isNotFound_iff.mp other)] at hbinding
    rw [run_decide_of_error hbinding]
    exact ⟨rfl, rfl⟩
  | @injectionOff found name config bound off =>
    have hoff : config.injectsApplications = false := by
      rw [← Bool.not_eq_true, WorkloadConfig.injectsApplications_iff]
      exact off
    rw [decide, run_bind_ok (run_binding_of_bound bound)]
    dsimp only
    rw [hoff]
    exact ⟨rfl, rfl⟩
  | @featuresOff found name config bound injects off =>
    have hinjects : config.injectsApplications = true :=
      WorkloadConfig.injectsApplications_iff.mpr injects
    have hoff : (features config pod).any = false := by
      rw [← Bool.not_eq_true, any_features_iff]
      rintro ⟨c, hc⟩
      exact Bool.false_ne_true ((off c).symm.trans hc)
    rw [decide, run_bind_ok (run_binding_of_bound bound)]
    dsimp only
    rw [hinjects, hoff]
    exact ⟨rfl, rfl⟩
  | initFailed wanted failed =>
    rw [run_decide_of_unprovisioned wanted (run_provision_of_init failed _)]
    exact ⟨rfl, rfl⟩
  | endpointFailed wanted init dataIngest failed =>
    rw [← dataIngest_features] at dataIngest
    have hprovision := run_provision_of_endpoint init dataIngest
    rw [failed] at hprovision
    rw [run_decide_of_unprovisioned wanted hprovision]
    exact ⟨rfl, rfl⟩
  | endpointIncomplete wanted init dataIngest read missing =>
    rw [← dataIngest_features] at dataIngest
    have hprovision := run_provision_of_endpoint init dataIngest
    rw [read] at hprovision
    dsimp only at hprovision
    rw [missingField?_eq_some_iff.mpr missing] at hprovision
    rw [run_decide_of_unprovisioned wanted hprovision]
    exact ⟨rfl, rfl⟩
  | @ownerFailed found name config endpoint e owners ready unmarked dataIngest walked =>
    have hingest : (injection ws config pod endpoint).features.dataIngest = true :=
      (dataIngest_features config pod).trans dataIngest
    rw [run_decide_of_ready ready, act_of_unmarked unmarked, dataIngest,
      run_inject_of_error hingest walked]
    exact ⟨rfl, rfl⟩
  | @injected found name config endpoint workload owners ready unmarked located =>
    have hlocated : Located answer ws (homeOf found) pod
        (injection ws config pod endpoint).features.dataIngest workload owners := by
      rw [← dataIngest_features] at located
      exact located
    rw [run_decide_of_ready ready, act_of_unmarked unmarked, run_inject_of_located hlocated,
      ← List.append_assoc]
    exact ⟨rfl, rfl⟩
  | @settled found name config endpoint ready marked idle =>
    have hidle : (injection ws config pod endpoint).config.repairsPods = false ∨
        ((injection ws config pod endpoint).repair pod).2 = false := idle
    rw [run_decide_of_ready ready, act_of_marked marked, run_repair_of_idle hidle, List.append_nil]
    exact ⟨rfl, rfl⟩
  | @repaired found name config endpoint ready marked repairs changed =>
    have hrepairs : (injection ws config pod endpoint).config.repairsPods = true := repairs
    rw [run_decide_of_ready ready, act_of_marked marked, run_repair_of_changed hrepairs changed]
    exact ⟨rfl, rfl⟩

/-! ## 6. Every admission takes an exit -/

/-- Once the secrets are there, a Pod is injected, repaired or left alone, or its workload is not
found. -/
theorem exists_exit_of_ready (h : Ready answer ns pod found name config endpoint) :
    ∃ asked report, Exit answer ws ns pod asked report := by
  by_cases hmarked : pod.Marked
  · cases hrepairs : config.spec.features.enableWebhookReinvocationPolicy with
    | false => exact ⟨_, _, .settled h hmarked (.inl hrepairs)⟩
    | true =>
      cases hchanged : ((injection ws config pod endpoint).repair pod).2 with
      | false => exact ⟨_, _, .settled h hmarked (.inr hchanged)⟩
      | true => exact ⟨_, _, .repaired h hmarked hrepairs hchanged⟩
  · cases hingest : config.turnsOn pod .dataIngest with
    | false =>
      have hlocated : Located answer ws (homeOf found) pod
          (config.turnsOn pod .dataIngest) none [] := by
        rw [hingest]
        exact ⟨rfl, rfl⟩
      exact ⟨_, _, .injected h hmarked hlocated⟩
    | true =>
      obtain ⟨r, owners, hwalked⟩ :=
        Owner.walked_run answer ws (homeOf found) pod
      cases r with
      | error e => exact ⟨_, _, .ownerFailed h hmarked hingest hwalked⟩
      | ok w =>
        have hlocated : Located answer ws (homeOf found) pod
            (config.turnsOn pod .dataIngest) (some w) owners := by
          rw [hingest]
          exact ⟨w, rfl, hwalked⟩
        exact ⟨_, _, .injected h hmarked hlocated⟩

/-- Once a Pod is wanted, the secrets are there or they are why it is refused. -/
theorem exists_exit_of_wanted (h : Wanted answer ns pod found name config) :
    ∃ asked report, Exit answer ws ns pod asked report := by
  cases hinit : answer (.ensureInitSecret config (homeOf found)) with
  | error e => exact ⟨_, _, .initFailed h hinit⟩
  | ok =>
    cases hingest : config.turnsOn pod .dataIngest with
    | false =>
      have hknown : Known answer config (homeOf found)
          (config.turnsOn pod .dataIngest) none := by
        rw [hingest]
        rfl
      exact exists_exit_of_ready ⟨h, hinit, hknown⟩
    | true =>
      cases hfields : answer (.ensureEndpointSecret config (homeOf found)) with
      | error e => exact ⟨_, _, .endpointFailed h hinit hingest hfields⟩
      | ok fields =>
        cases hmissing : missingField? fields with
        | some key =>
          have hfirst := missingField?_eq_some_iff.mp hmissing
          exact ⟨_, _, .endpointIncomplete h hinit hingest hfields hfirst⟩
        | none =>
          have hknown : Known answer config (homeOf found)
              (config.turnsOn pod .dataIngest) (some fields) := by
            rw [hingest]
            exact ⟨fields, hfields, missingField?_eq_none_iff.mp hmissing, rfl⟩
          exact exists_exit_of_ready ⟨h, hinit, hknown⟩

/-- **Some exit is always taken.** -/
theorem exists_exit (answer : (q : Query) → q.Answer) (ws : WebhookSettings) (ns : String)
    (pod : Pod) : ∃ asked report, Exit answer ws ns pod asked report := by
  cases hns : answer (.namespace_ ns) with
  | error e => exact ⟨_, _, .namespaceFailed hns⟩
  | ok found =>
    cases hlabel : boundTo? found with
    | none => exact ⟨_, _, .unbound hns hlabel⟩
    | some name =>
      cases htarget : answer (.workloadConfig name) with
      | error e =>
        by_cases habsent : e.MeansAbsent
        · exact ⟨_, _, .configNotFound hns hlabel htarget habsent⟩
        · exact ⟨_, _, .configFailed hns hlabel htarget habsent⟩
      | ok config? =>
        cases config? with
        | none => exact ⟨_, _, .configAbsent hns hlabel htarget⟩
        | some config =>
          have hbound : Bound answer ns found name config := ⟨hns, hlabel, htarget⟩
          by_cases hinjects : config.AsksForInjection
          · by_cases hany : ∃ c, config.turnsOn pod c = true
            · exact exists_exit_of_wanted ⟨hbound, hinjects, hany⟩
            · have hoff : ∀ c, config.turnsOn pod c = false := by simpa using hany
              exact ⟨_, _, .featuresOff hbound hinjects hoff⟩
          · exact ⟨_, _, .injectionOff hbound hinjects⟩

/-- **The exit of a run.** -/
theorem exit_of_run (answer : (q : Query) → q.Answer) (ws : WebhookSettings) (ns : String)
    (pod : Pod) :
    Exit answer ws ns pod ((decide ws ns pod).run.run answer).2
      (reported ((decide ws ns pod).run.run answer).1) := by
  obtain ⟨asked, report, hexit⟩ := exists_exit answer ws ns pod
  obtain ⟨rfl, rfl⟩ := run_of_exit hexit
  exact hexit

/-! ## 7. What all exits have in common -/

/-- Nothing is announced. -/
def Silent (asked : List Query) : Prop := ∀ q ∈ asked, q.event? = none

/-- What was asked and what is reported fit together. -/
structure Orderly (answer : (q : Query) → q.Answer) (pod : Pod) (asked : List Query)
    (report : Report) : Prop where
  /-- Nothing is asked after a question that failed. -/
  cut : Cut answer asked
  /-- A question that failed ends in an error. -/
  refused : (∃ q ∈ asked, (q.failure? (answer q)).isSome) → ∃ e, report = .error e
  /-- Unless the Pod was patched, nothing is announced. -/
  silent : (∀ p warnings, report ≠ .ok (.patched p warnings)) → Silent asked
  /-- If the Pod was patched, that is announced once, last, and for what it is. -/
  announced : ∀ p warnings, report = .ok (.patched p warnings) →
    ∃ calls event, asked = calls ++ [.announce event] ∧ Silent calls ∧
      event.reason = if pod.Marked then .updatePod else .inject

theorem Silent.append {first rest : List Query} (h : Silent first) (h' : Silent rest) :
    Silent (first ++ rest) := by
  intro q hq
  rcases List.mem_append.mp hq with hq | hq
  · exact h q hq
  · exact h' q hq

theorem silent_lookUps (ns name : String) : Silent (lookUps ns name) := by
  simp [Silent, lookUps, Query.event?]

theorem silent_provisions (config : WorkloadConfig) (home : String) (dataIngest : Bool) :
    Silent (provisions config home dataIngest) := by
  cases dataIngest <;> simp [Silent, provisions, Query.event?]

theorem silent_of_fetches {r : Except Failure Workload} {owners : List Query}
    (h : Owner.Fetches answer ns r owners) : Silent owners := by
  intro q hq
  obtain ⟨ref, rfl⟩ := h.owners q hq
  rfl

section Orders

variable {asked : List Query}

theorem orderly_refused {e : AdmissionError × Nat} (cut : Cut answer asked)
    (silent : Silent asked) : Orderly answer pod asked (.error e) where
  cut := cut
  refused := fun _ => ⟨e, rfl⟩
  silent := fun _ => silent
  announced := fun _ _ h => absurd h (by simp)

theorem not_failed_of_clean (clean : Clean answer asked) :
    ¬ ∃ q ∈ asked, (q.failure? (answer q)).isSome := by
  rintro ⟨q, hq, hfailed⟩
  rw [clean q hq] at hfailed
  exact Bool.noConfusion hfailed

theorem orderly_unchanged {note : Option String} (clean : Clean answer asked)
    (silent : Silent asked) : Orderly answer pod asked (.ok (.unchanged note)) where
  cut := clean.cut
  refused := fun h => absurd h (not_failed_of_clean clean)
  silent := fun _ => silent
  announced := fun _ _ h => absurd h (by simp)

theorem orderly_patched {p : Pod} {warnings : List String} {event : Event}
    (clean : Clean answer asked) (silent : Silent asked)
    (reason : event.reason =
      if pod.Marked then .updatePod else .inject) :
    Orderly answer pod (asked ++ [.announce event]) (.ok (.patched p warnings)) where
  cut := clean.append_cut (cut_singleton _)
  refused := by
    refine fun h => absurd h (not_failed_of_clean (clean.append fun q hq => ?_))
    rw [List.mem_singleton.mp hq]
    rfl
  silent := fun h => absurd rfl (h p warnings)
  announced := fun _ _ _ => ⟨asked, event, rfl, silent, reason⟩

end Orders

theorem clean_namespace (read : answer (.namespace_ ns) = .ok found) :
    Clean answer [.namespace_ ns] := by
  refine clean_singleton ?_
  rw [read]
  rfl

theorem clean_lookUps (h : Bound answer ns found name config) :
    Clean answer (lookUps ns name) := by
  refine (clean_namespace h.read).append (clean_singleton ?_)
  rw [h.target]
  rfl

theorem clean_init {home : String} (init : answer (.ensureInitSecret config home) = .ok ()) :
    Clean answer [.ensureInitSecret config home] := by
  refine clean_singleton ?_
  rw [init]
  rfl

theorem clean_provisions {home : String} {dataIngest : Bool}
    (init : answer (.ensureInitSecret config home) = .ok ())
    (known : Known answer config home dataIngest endpoint) :
    Clean answer (provisions config home dataIngest) := by
  cases dataIngest with
  | false => exact clean_init init
  | true =>
    obtain ⟨fields, hfields, -⟩ := known
    have hendpoint : Clean answer [.ensureEndpointSecret config home] := by
      refine clean_singleton ?_
      rw [hfields]
      rfl
    exact (clean_init init).append hendpoint

/-- Until a Pod is ready no question failed. -/
theorem Ready.clean (h : Ready answer ns pod found name config endpoint) :
    Clean answer (lookUps ns name ++
      provisions config (homeOf found) (config.turnsOn pod .dataIngest)) :=
  (clean_lookUps h.wanted.bound).append (clean_provisions h.init h.known)

theorem clean_of_located {home : String} {dataIngest : Bool} {workload : Option Workload}
    {owners : List Query} (h : Located answer ws home pod dataIngest workload owners) :
    Clean answer owners := by
  cases dataIngest with
  | false =>
    obtain ⟨-, rfl⟩ := h
    exact fun _ h => absurd h List.not_mem_nil
  | true =>
    obtain ⟨w, -, hwalked⟩ := h
    exact hwalked.clean

theorem silent_of_located {home : String} {dataIngest : Bool} {workload : Option Workload}
    {owners : List Query} (h : Located answer ws home pod dataIngest workload owners) :
    Silent owners := by
  cases dataIngest with
  | false =>
    obtain ⟨-, rfl⟩ := h
    exact fun _ h => absurd h List.not_mem_nil
  | true =>
    obtain ⟨w, -, hwalked⟩ := h
    exact silent_of_fetches hwalked.fetches

/-- **All exits are orderly.** -/
theorem orderly_of_exit {asked : List Query} {report : Report}
    (h : Exit answer ws ns pod asked report) : Orderly answer pod asked report := by
  cases h with
  | namespaceFailed failed => exact orderly_refused (cut_singleton _) (by simp [Silent, Query.event?])
  | unbound read unlabelled =>
    exact orderly_refused (cut_singleton _) (by simp [Silent, Query.event?])
  | configAbsent read label absent =>
    exact orderly_refused ((clean_namespace read).append_cut (cut_singleton _)) (silent_lookUps _ _)
  | configNotFound read label failed absent =>
    exact orderly_refused ((clean_namespace read).append_cut (cut_singleton _)) (silent_lookUps _ _)
  | configFailed read label failed other =>
    exact orderly_refused ((clean_namespace read).append_cut (cut_singleton _)) (silent_lookUps _ _)
  | injectionOff bound off => exact orderly_unchanged (clean_lookUps bound) (silent_lookUps _ _)
  | featuresOff bound injects off =>
    exact orderly_unchanged (clean_lookUps bound) (silent_lookUps _ _)
  | initFailed wanted failed =>
    exact orderly_refused ((clean_lookUps wanted.bound).append_cut (cut_singleton _))
      ((silent_lookUps _ _).append (silent_provisions _ _ false))
  | endpointFailed wanted init dataIngest failed =>
    exact orderly_refused
      ((clean_lookUps wanted.bound).append_cut ((clean_init init).append_cut (cut_singleton _)))
      ((silent_lookUps _ _).append (silent_provisions _ _ true))
  | endpointIncomplete wanted init dataIngest read missing =>
    exact orderly_refused
      ((clean_lookUps wanted.bound).append_cut ((clean_init init).append_cut (cut_singleton _)))
      ((silent_lookUps _ _).append (silent_provisions _ _ true))
  | ownerFailed ready unmarked dataIngest walked =>
    have hclean := ready.clean
    rw [dataIngest] at hclean
    exact orderly_refused (hclean.append_cut walked.fetches.cut)
      (((silent_lookUps _ _).append (silent_provisions _ _ true)).append
        (silent_of_fetches walked.fetches))
  | injected ready unmarked located =>
    refine orderly_patched (ready.clean.append (clean_of_located located))
      (((silent_lookUps _ _).append (silent_provisions _ _ _)).append
        (silent_of_located located)) ?_
    rw [if_neg unmarked]
    rfl
  | settled ready marked idle =>
    exact orderly_unchanged ready.clean ((silent_lookUps _ _).append (silent_provisions _ _ _))
  | repaired ready marked repairs changed =>
    refine orderly_patched ready.clean
      ((silent_lookUps _ _).append (silent_provisions _ _ _)) ?_
    rw [if_pos marked]
    rfl

/-- **The exits of an admission.**  For every cluster, namespace and Pod, what an admission asks and
what it reports is what one of the exits says, and no exit says anything else; and at whatever exit
it leaves, nothing was asked after a question that failed, a failed question ends in an error, and
an event was announced last if the Pod was patched and not at all otherwise. -/
theorem decide_exits (answer : (q : Query) → q.Answer) (ws : WebhookSettings) (ns : String)
    (pod : Pod) :
    (∀ asked report, Exit answer ws ns pod asked report ↔
      ((decide ws ns pod).run.run answer).2 = asked ∧
        reported ((decide ws ns pod).run.run answer).1 = report) ∧
      Orderly answer pod ((decide ws ns pod).run.run answer).2
        (reported ((decide ws ns pod).run.run answer).1) := by
  have hexit := exit_of_run answer ws ns pod
  refine ⟨fun asked report => ⟨fun h => (run_of_exit h).symm, ?_⟩, orderly_of_exit hexit⟩
  rintro ⟨rfl, rfl⟩
  exact hexit

end Admission

end InjectionWebhook
