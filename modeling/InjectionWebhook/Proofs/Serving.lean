/-
# Admissions served by an API server

The questions of an admission are answered by requests, and the requests by an API server: `served`
is one admission run that way.  First the binding is looked up, which only reads; then everything
else is asked under the bound config (`served_eq`, `asks_proceed`).

So an admission takes nothing away (`keeps_served`), and what it writes follows the bound config
(`follows_served`).  Where it ends with a patch, the secrets it made sure of are there
(`contains_of_patched`).
-/
import InjectionWebhook.Proofs.Decision
import InjectionWebhook.Proofs.InjectedPod
import InjectionWebhook.Proofs.Provision

namespace InjectionWebhook

open Dialogue

/-! ## 1. Admissions against an API server -/

namespace Admission

/-- One admission against an API server: the verdict, and the server afterwards. -/
def served (ws : WebhookSettings) (operatorNs ns : String) (pod : Pod) (server : ApiServer) :
    Except AdmissionError Verdict × ApiServer :=
  ((decide ws ns pod).run.expand (Client.answer operatorNs)).runState ApiServer.answer server

/-- The look-ups of a binding against an API server. -/
def lookUp (operatorNs ns : String) (server : ApiServer) :
    Except AdmissionError (Namespace × WorkloadConfig) × ApiServer :=
  ((binding ns).run.expand (Client.answer operatorNs)).runState ApiServer.answer server

/-- What is asked after the binding is found. -/
def proceed (ws : WebhookSettings) (pod : Pod) (found : Namespace) (config : WorkloadConfig) :
    Attempt Verdict :=
  if !config.injectsApplications then return .unchanged (some injectionOffNote)
  else if !(features config pod).any then return .unchanged (some featuresOffNote)
  else do
    let ns := found.metadata.nameOrEmpty
    let endpoint ← provision config (features config pod) ns
    act ws ns (injection ws config pod endpoint) pod

theorem decide_eq (ws : WebhookSettings) (ns : String) (pod : Pod) :
    decide ws ns pod = binding ns >>= fun b => proceed ws pod b.1 b.2 := rfl

/-- **An admission is the look-ups, and what is asked after them.** -/
theorem served_eq (ws : WebhookSettings) (operatorNs ns : String) (pod : Pod) (server : ApiServer) :
    served ws operatorNs ns pod server =
      match lookUp operatorNs ns server with
      | (.ok (found, config), s) =>
        ((proceed ws pod found config).run.expand (Client.answer operatorNs)).runState
          ApiServer.answer s
      | (.error e, s) => (.error e, s) := by
  rw [served, lookUp, decide_eq, run_bind_except, expand_bind, runState_bind]
  cases ((binding ns).run.expand (Client.answer operatorNs)).runState ApiServer.answer server with
  | mk r s => cases r <;> rfl

/-! ## 2. What an admission asks -/

/-- The questions of a binding. -/
def LooksUp : Query → Prop
  | .namespace_ _ | .workloadConfig _ => True
  | _ => False

theorem asks_orElse {α : Type} {P : Query → Prop} {d : ClusterDialogue (Except Failure α)}
    {wrap : Failure → AdmissionError} (h : d.Asks P) : (orElse d wrap).run.Asks P :=
  Asks.bind h fun _ _ => .done _

/-- A binding looks up only. -/
theorem asks_binding (ns : String) : (binding ns).run.Asks LooksUp := by
  rw [binding]
  refine Asks.bind_ok (asks_orElse (.ask trivial fun _ => .done _)) fun found _ => ?_
  cases (found.metadata.labels.getD .empty).get? bindingLabel with
  | none => exact .done _
  | some name =>
    refine Asks.bind_ok (asks_orElse (.ask trivial fun _ => .done _)) fun config _ => ?_
    cases config <;> exact .done _

section Under

variable {config : WorkloadConfig}

theorem asks_walk (ns : String) (depth left : Nat) (visited : List (String × String))
    (current : Workload) (owners : Option (List OwnerReference)) :
    (Owner.walk ns depth left visited current owners).Asks (Client.Under config) := by
  fun_induction Owner.walk ns depth left visited current owners with
  | case1 => exact .done _
  | case2 => exact .done _
  | case3 => exact .done _
  | case4 => exact .done _
  | case5 visited current owners o _ _ left _ ih =>
    refine .ask trivial fun r => ?_
    cases r with
    | error e => exact .done _
    | ok fetched => exact ih fetched

theorem asks_announce (c : WorkloadConfig) (reason : EventReason) (note : String) :
    (announce c reason note).run.Asks (Client.Under config) := by
  have hask : (Query.askAnnounce { about := c.metadata, reason, note }).Asks
      (Client.Under config) :=
    .ask trivial fun _ => .done _
  exact Asks.bind hask fun _ _ => .done _

theorem asks_provision (features : Features) (ns : String) :
    (provision config features ns).run.Asks (Client.Under config) := by
  rw [provision]
  refine Asks.bind_ok (asks_orElse (.ask rfl fun _ => .done _)) fun _ _ => ?_
  split
  · refine Asks.bind_ok (asks_orElse (.ask rfl fun _ => .done _)) fun fields _ => ?_
    split <;> exact .done _
  · exact .done _

theorem asks_act (ws : WebhookSettings) (ns : String) (i : Injection) (pod : Pod) :
    (act ws ns i pod).run.Asks (Client.Under config) := by
  rw [act]
  split
  · rw [repair]
    split
    · exact Asks.bind_ok (asks_announce _ _ _) fun _ _ => .done _
    · exact .done _
  · rw [inject]
    split
    · refine Asks.bind_ok (Asks.map_ok (asks_orElse (asks_walk _ _ _ _ _ _))) fun _ _ => ?_
      exact Asks.bind_ok (asks_announce _ _ _) fun _ _ => .done _
    · refine Asks.bind_ok (.done _) fun _ _ => ?_
      exact Asks.bind_ok (asks_announce _ _ _) fun _ _ => .done _

/-- **After the binding, all questions are under its config.** -/
theorem asks_proceed (ws : WebhookSettings) (pod : Pod) (found : Namespace) :
    (proceed ws pod found config).run.Asks (Client.Under config) := by
  rw [proceed]
  split
  · exact .done _
  · split
    · exact .done _
    · exact Asks.bind_ok (asks_provision _ _) fun _ _ => asks_act _ _ _ _

end Under

/-- Look-ups are answered by gets. -/
theorem asks_answer_of_looksUp {operatorNs : String} {q : Query} (h : LooksUp q) :
    (Client.answer operatorNs q).Asks Client.Reads := by
  have hget : ∀ path, Client.Reads (.get path) := fun _ => trivial
  cases q with
  | namespace_ name => exact Client.asks_getAs hget _ _ _ _
  | workloadConfig name => exact Client.asks_getIfPresent hget _ _ _ _
  | owner ref ns => exact h.elim
  | ensureInitSecret config ns => exact h.elim
  | ensureEndpointSecret config ns => exact h.elim
  | announce event => exact h.elim

/-! ## 3. What an admission writes -/

section Admit

variable {ws : WebhookSettings} {operatorNs ns : String} {pod : Pod} {server : ApiServer}

/-- **An admission keeps all there is.** -/
theorem keeps_served : ApiServer.Keeps server (served ws operatorNs ns pod server).2 :=
  ApiServer.keeps_runState _ server

/-- Looking up leaves the objects alone. -/
theorem objects_lookUp : (lookUp operatorNs ns server).2.objects = server.objects := by
  have hasks : ((binding ns).run.expand (Client.answer operatorNs)).Asks Client.Reads :=
    Asks.expand (fun _ => asks_answer_of_looksUp) (asks_binding ns)
  exact Client.objects_runState hasks server

/-- **What an admission writes follows the bound config.** -/
theorem follows_served {home : String} {found : Namespace} {config : WorkloadConfig}
    (hbound : (lookUp operatorNs ns server).1 = .ok (found, config))
    (hfree : server.objects.get? (secretPath home initSecretName) = none) :
    (served ws operatorNs ns pod server).2.Follows config (secretPath home initSecretName) := by
  have hlookUp : lookUp operatorNs ns server =
      (.ok (found, config), (lookUp operatorNs ns server).2) := by
    rw [← hbound]
  rw [served_eq, hlookUp]
  refine Client.follows_runState (Asks.expand (fun _ => Client.asks_answer) (asks_proceed _ _ _)) ?_
  intro o ho
  rw [objects_lookUp, hfree] at ho
  exact absurd ho (by simp)

/-- Without a binding nothing is written. -/
theorem objects_served_of_error {e : AdmissionError}
    (hbound : (lookUp operatorNs ns server).1 = .error e) :
    (served ws operatorNs ns pod server).2.objects = server.objects := by
  have hlookUp : lookUp operatorNs ns server = (.error e, (lookUp operatorNs ns server).2) := by
    rw [← hbound]
  rw [served_eq, hlookUp]
  exact objects_lookUp

/-! ## 4. What is there after a patch -/

/-- A namespace as clusters name it: the name can stand in a path, and the namespace that is found
there has that name. -/
structure Named (operatorNs ns : String) (server : ApiServer) : Prop where
  text : isPathText ns = true
  found : ∀ b ∈ (lookUp operatorNs ns server).1.toOption, b.1.metadata.name = some ns

/-- An answer to a question: the question is asked through requests. -/
def serve (operatorNs : String) (q : Query) (s : ApiServer) : q.Answer × ApiServer :=
  (Client.answer operatorNs q).runState ApiServer.answer s

/-- What is served is a run of requests. -/
theorem steps_of_serve {q : Query} {s s' : ApiServer} {r : q.Answer}
    (h : Stateful (serve operatorNs) q s r s') :
    (Client.answer operatorNs q).Steps (Stateful ApiServer.answer) s r s' :=
  steps_runState_iff.mpr h

/-- Runs with the questions served keep all there is. -/
theorem keeps_of_steps_serve {α : Type} {d : ClusterDialogue α} {s s' : ApiServer} {a : α}
    (h : d.Steps (Stateful (serve operatorNs)) s a s') : ApiServer.Keeps s s' := by
  have hrun : (a, s') = (d.expand (Client.answer operatorNs)).runState ApiServer.answer s := by
    rw [runState_expand]
    exact steps_runState_iff.mp h
  rw [show s' = _ from congrArg Prod.snd hrun]
  exact ApiServer.keeps_runState _ s

/-- **After a provision the secrets are there**, the endpoint secret if enrichment is on. -/
theorem contains_of_steps_provision {config : WorkloadConfig} {features : Features}
    {endpoint : Option EndpointFields} {s s' : ApiServer} (hns : isPathText ns = true)
    (hs : s.Honest)
    (h : (provision config features ns).run.Steps (Stateful (serve operatorNs)) s
      (.ok endpoint) s') :
    s'.objects.contains (secretPath ns initSecretName) = true ∧
      (features.dataIngest = true →
        s'.objects.contains (secretPath ns endpointSecretName) = true) := by
  obtain ⟨t, hinit, hrest⟩ := steps_provision.mp h
  have hsteps := steps_of_serve hinit
  have hthere : t.objects.contains (secretPath ns initSecretName) = true :=
    Client.contains_of_ensureInitSecret hns hs hsteps
  rcases hrest with ⟨hingest, -, rfl⟩ | ⟨-, fields, hfields, -, -⟩
  · exact ⟨hthere, fun h => absurd (hingest.symm.trans h) Bool.false_ne_true⟩
  · have hsteps' := steps_of_serve hfields
    have ht : t.Honest := (ApiServer.keeps_of_steps hsteps).honest hs
    exact ⟨(ApiServer.keeps_of_steps hsteps').contains hthere,
      fun _ => Client.contains_of_ensureEndpointSecret hns ht hsteps'⟩

/-- A binding that is found in a run is the one that is looked up. -/
theorem lookUp_of_steps {found : Namespace} {config : WorkloadConfig} {s : ApiServer}
    (h : (binding ns).run.Steps (Stateful (serve operatorNs)) server (.ok (found, config)) s) :
    lookUp operatorNs ns server = (.ok (found, config), s) := by
  rw [lookUp, runState_expand]
  exact (steps_runState_iff.mp h).symm

/-- **After a patch the secrets are there**: the injection config secret, and with enrichment the
endpoint secret. -/
theorem contains_of_patched (hnamed : Named operatorNs ns server) (hs : server.Honest) {p : Pod}
    {warnings : List String}
    (h : (served ws operatorNs ns pod server).1 = .ok (.patched p warnings)) :
    ∃ i : Injection, (p = i.inject pod ∨ p = (i.repair pod).1) ∧
      (served ws operatorNs ns pod server).2.objects.contains
        (secretPath ns initSecretName) = true ∧
      (i.attachment.enrichment.isSome = true →
        (served ws operatorNs ns pod server).2.objects.contains
          (secretPath ns endpointSecretName) = true) := by
  have hsteps : (decide ws ns pod).run.Steps (Stateful (serve operatorNs)) server
      (.ok (.patched p warnings)) (served ws operatorNs ns pod server).2 := by
    rw [steps_runState_iff, ← h]
    exact runState_expand _ _ _ _
  obtain ⟨found, config, endpoint, t, hadmitted, hact, hpatched⟩ := steps_decide_patched hsteps
  obtain ⟨u, hbinding, hprovision⟩ := hadmitted.asked
  have hname : found.metadata.nameOrEmpty = ns := by
    have hfound : found.metadata.name = some ns := by
      refine hnamed.found (found, config) ?_
      rw [lookUp_of_steps hbinding]
      rfl
    rw [ObjectMeta.nameOrEmpty, hfound]
    rfl
  rw [hname] at hprovision
  obtain ⟨hinit, hendpoint⟩ := contains_of_steps_provision hnamed.text
    ((keeps_of_steps_serve hbinding).honest hs) hprovision
  have hend : ApiServer.Keeps t (served ws operatorNs ns pod server).2 := keeps_of_steps_serve hact
  have hendpointEnd : ∀ workload, ({ injection ws config pod endpoint with
      workload } : Injection).attachment.enrichment.isSome = true →
      (served ws operatorNs ns pod server).2.objects.contains
        (secretPath ns endpointSecretName) = true := by
    intro workload henriched
    obtain ⟨e, he⟩ := Option.isSome_iff_exists.mp henriched
    exact hend.contains (hendpoint (Injection.dataIngest_of_enrichment he))
  rcases hpatched with ⟨-, workload, -, hp⟩ | ⟨-, -, hp⟩
  · exact ⟨_, .inl hp, hend.contains hinit, hendpointEnd workload⟩
  · exact ⟨_, .inr hp, hend.contains hinit, hendpointEnd none⟩

end Admit

end Admission
end InjectionWebhook
