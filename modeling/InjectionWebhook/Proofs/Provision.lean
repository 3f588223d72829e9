/-
# What is provisioned

The supporting secrets are made once in a namespace.  `Writes` says what the creations of an
admission under a config look like: an endpoint secret, or an injection config secret which has the
proxy key exactly if the config has a proxy.  Every question asked under the config is answered with
such requests only (`asks_answer`), and after a question for a secret was answered well, the secret
is there (`contains_of_ensureInitSecret`, `contains_of_ensureEndpointSecret`).
-/
import InjectionWebhook.Proofs.ApiServer

namespace InjectionWebhook

open Dialogue

/-! ## 1. Keys of secrets -/

/-- The secret has a key. -/
def Secret.hasKey (s : Secret) (key : String) : Bool :=
  (s.data.getD .empty).contains key || (s.stringData.getD .empty).contains key

/-- **The injection config secret has the proxy key exactly if there is a proxy.** -/
theorem Provision.hasKey_initSecret (config : WorkloadConfig) (ns : String) (tokens : Dict String)
    (proxy : Option String) :
    (initSecret config ns tokens proxy).hasKey proxyKey = proxy.isSome := by
  cases proxy <;>
    simp [initSecret, Secret.hasKey, Dict.contains, Dict.ofList, scriptKey, settingsKey, proxyKey]

/-- A text is what a secret must hold if it is there and not empty. -/
theorem Provision.required_eq_ok_iff {data : Dict String} {secret key value : String} :
    required data secret key = .ok value ↔ nonEmpty? (data.get? key) = some value := by
  rw [required]
  cases nonEmpty? (data.get? key) <;> simp

/-- At a path is nothing, or a secret that has the proxy key exactly if the config has a proxy. -/
def ApiServer.Follows (s : ApiServer) (config : WorkloadConfig) (path : String) : Prop :=
  ∀ o, s.objects.get? path = some o →
    ∃ secret, o = .secret secret ∧ secret.hasKey proxyKey = config.hasProxy

namespace Client

variable {operatorNs ns : String} {config : WorkloadConfig}

section Proxy

variable {σ : Type} {answers : (r : Request) → σ → r.Answer → σ → Prop} {s s' : σ}

/-- **A proxy is found exactly if the config has one.** -/
theorem isSome_of_steps_proxy {found : Option String}
    (h : (proxy operatorNs config).run.Steps answers s (.ok found) s') :
    found.isSome = config.hasProxy := by
  rw [proxy] at h
  rw [WorkloadConfig.hasProxy]
  cases hinline : config.inlineProxy? with
  | some value =>
    rw [hinline] at h
    obtain ⟨rfl, -⟩ := steps_pure.mp h
    rfl
  | none =>
    cases hsecret : config.proxySecret? with
    | none =>
      rw [hinline, hsecret] at h
      obtain ⟨rfl, -⟩ := steps_pure.mp h
      rfl
    | some name =>
      rw [hinline, hsecret, steps_bind_ok] at h
      obtain ⟨data, t, -, h⟩ := h
      obtain ⟨value, -, rfl⟩ := steps_map_ok.mp h
      rfl

end Proxy

/-! ## 2. What is asked -/

section Gets

variable {P : Request → Prop} (hget : ∀ path, P (.get path))
include hget

theorem asks_getObject (resource : ApiResource) (within : Option String) (name : String) :
    (getObject resource within name).Asks P := by
  unfold getObject
  split
  · exact .done _
  · exact .ask (hget _) fun _ => .done _

theorem asks_getAs {α : Type} (resource : ApiResource) (within : Option String) (name : String)
    (read : StoredObject → Except Flaw α) : (getAs resource within name read).Asks P :=
  Asks.bind (asks_getObject hget resource within name) fun _ _ => .done _

theorem asks_getIfPresent {α : Type} (resource : ApiResource) (within : Option String)
    (name : String) (read : StoredObject → Except Flaw α) :
    (getIfPresent resource within name read).Asks P :=
  Asks.bind (asks_getAs hget resource within name read) fun _ _ => .done _

theorem asks_secret (name : String) :
    (ExceptT.mk (secret ns name) : Attempt Secret).run.Asks P :=
  asks_getAs hget ApiResource.secrets (some ns) name StoredObject.asSecret

theorem asks_secretIfPresent (name : String) :
    (ExceptT.mk (secretIfPresent ns name) : Attempt (Option Secret)).run.Asks P :=
  asks_getIfPresent hget ApiResource.secrets (some ns) name StoredObject.asSecret

theorem asks_operatorSecret (name : String) : (operatorSecret operatorNs name).run.Asks P := by
  rw [operatorSecret]
  exact Asks.bind_ok (asks_secret hget name) fun _ _ => .done _

theorem asks_proxy : (proxy operatorNs config).run.Asks P := by
  rw [proxy]
  split
  · exact .done _
  · exact Asks.bind_ok (asks_operatorSecret hget _) fun _ _ => Asks.map_ok (.done _)
  · exact .done _

end Gets

/-- Objects are read only. -/
def Reads : Request → Prop
  | .get _ => True
  | _ => False

/-- What is created under a config. -/
def Writes (config : WorkloadConfig) : Request → Prop
  | .create _ secret =>
    secret.metadata.nameOrEmpty = endpointSecretName ∨
      secret.metadata.nameOrEmpty = initSecretName ∧ secret.hasKey proxyKey = config.hasProxy
  | _ => True

theorem asks_createIfAbsent {P : Request → Prop} {secret : Secret}
    (hcreate : ∀ collection, P (.create collection secret)) :
    (ExceptT.mk (createIfAbsent ns secret) : Attempt Bool).run.Asks P := by
  rw [ExceptT.run_mk]
  unfold createIfAbsent
  split
  · exact .done _
  · refine .ask (hcreate _) fun r => ?_
    cases r <;> exact .done _

theorem asks_ensureInitSecret :
    (ensureInitSecret operatorNs config ns).run.Asks (Writes config) := by
  have hget : ∀ path, Writes config (.get path) := fun _ => trivial
  rw [ensureInitSecret]
  refine Asks.bind_ok (asks_secretIfPresent hget initSecretName) fun found _ => ?_
  cases found with
  | some secret => exact .done _
  | none =>
    refine Asks.bind_ok (asks_operatorSecret hget config.tokensSecret) fun tokens _ => ?_
    refine Asks.bind_ok (asks_proxy hget) fun found hfound => ?_
    refine Asks.bind_ok (asks_createIfAbsent fun _ => .inr ⟨rfl, ?_⟩) fun _ _ => .done _
    rw [Provision.hasKey_initSecret]
    exact isSome_of_steps_proxy hfound

theorem asks_ensureEndpointSecret :
    (ensureEndpointSecret operatorNs config ns).run.Asks (Writes config) := by
  have hget : ∀ path, Writes config (.get path) := fun _ => trivial
  rw [ensureEndpointSecret]
  refine Asks.bind_ok (asks_operatorSecret hget config.tokensSecret) fun tokens _ => ?_
  refine Asks.bind_ok (.done _) fun fields _ => ?_
  refine Asks.bind_ok (asks_secretIfPresent hget endpointSecretName) fun found _ => ?_
  cases found with
  | some secret => exact .done _
  | none => exact Asks.bind_ok (asks_createIfAbsent fun _ => .inl rfl) fun _ _ => .done _

/-- The questions of an admission that is decided under a config. -/
def Under (config : WorkloadConfig) : Query → Prop
  | .ensureInitSecret c _ | .ensureEndpointSecret c _ => c = config
  | _ => True

/-- **Questions under a config write what the config says.** -/
theorem asks_answer {q : Query} (h : Under config q) :
    (answer operatorNs q).Asks (Writes config) := by
  have hget : ∀ path, Writes config (.get path) := fun _ => trivial
  cases q with
  | namespace_ name => exact asks_getAs hget _ _ _ _
  | workloadConfig name => exact asks_getIfPresent hget _ _ _ _
  | owner ref ns => exact asks_getAs hget _ _ _ _
  | announce event => exact .ask trivial fun _ => .done _
  | ensureInitSecret c ns =>
    rw [Under] at h
    subst h
    exact asks_ensureInitSecret
  | ensureEndpointSecret c ns =>
    rw [Under] at h
    subst h
    exact asks_ensureEndpointSecret

/-! ## 3. What is written -/

/-- The two supporting secrets are never at the same path. -/
theorem endpointPath_ne_initPath (collection collection' : String) :
    collection ++ "/" ++ endpointSecretName ≠ collection' ++ "/" ++ initSecretName := by
  intro h
  have hendpoint : endpointSecretName.toList.getLast? = some 't' := by decide +kernel
  have hinit : initSecretName.toList.getLast? = some 'g' := by decide +kernel
  have hlast := congrArg (fun path => path.toList.getLast?) h
  simp only [String.toList_append, List.getLast?_append, hendpoint, hinit, Option.some_or] at hlast
  exact absurd hlast (by decide)

/-- A creation under the config keeps to the config. -/
theorem follows_answer {home : String} {r : Request} {s : ApiServer} (hr : Writes config r)
    (hs : s.Follows config (secretPath home initSecretName)) :
    (ApiServer.answer r s).2.Follows config (secretPath home initSecretName) := by
  cases r with
  | get path =>
    intro o ho
    rw [ApiServer.objects_get] at ho
    exact hs o ho
  | announce event => exact hs
  | create collection secret =>
    rcases ApiServer.objects_create s collection secret with h | ⟨-, h⟩
    · intro o ho
      rw [h] at ho
      exact hs o ho
    · intro o ho
      rw [h, Dict.get?_insert] at ho
      split at ho
      · rename_i hpath
        rcases hr with hname | ⟨-, hkey⟩
        · rw [ApiServer.pathOf, hname] at hpath
          exact absurd hpath.symm (endpointPath_ne_initPath _ _)
        · exact ⟨secret, (Option.some.inj ho).symm, hkey⟩
      · exact hs o ho

/-- **A run of requests under the config keeps to the config.** -/
theorem follows_runState {α : Type} {home : String} {d : RequestDialogue α} {s : ApiServer}
    (hd : d.Asks (Writes config)) (hs : s.Follows config (secretPath home initSecretName)) :
    (d.runState ApiServer.answer s).2.Follows config (secretPath home initSecretName) :=
  runState_invariant (I := fun t : ApiServer => t.Follows config (secretPath home initSecretName))
    (fun _ _ => follows_answer) hd hs

/-- **Reading leaves the objects alone.** -/
theorem objects_runState {α : Type} {d : RequestDialogue α} (hd : d.Asks Reads) (s : ApiServer) :
    (d.runState ApiServer.answer s).2.objects = s.objects := by
  have hstep : ∀ (r : Request) (t : ApiServer), Reads r → t.objects = s.objects →
      (ApiServer.answer r t).2.objects = s.objects := by
    intro r t hr ht
    cases r with
    | get path => exact (ApiServer.objects_get t path).trans ht
    | create collection secret => exact hr.elim
    | announce event => exact hr.elim
  exact runState_invariant (I := fun t : ApiServer => t.objects = s.objects) hstep hd rfl

/-! ## 4. What is there afterwards -/

section Afterwards

variable {s s' : ApiServer}

/-- The parts of a successful call for the injection config secret: the secret is there, or it is made
from the tokens and the proxy and created. -/
theorem steps_ensureInitSecret
    (h : (ensureInitSecret operatorNs config ns).run.Steps (Stateful ApiServer.answer) s
      (.ok ()) s') :
    ∃ found t, (secretIfPresent ns initSecretName).Steps (Stateful ApiServer.answer) s
        (.ok found) t ∧
      (found.isSome = true ∧ s' = t ∨ found = none ∧ ∃ tokens u value v created,
        (operatorSecret operatorNs config.tokensSecret).run.Steps (Stateful ApiServer.answer) t
          (.ok tokens) u ∧
        (proxy operatorNs config).run.Steps (Stateful ApiServer.answer) u (.ok value) v ∧
        (createIfAbsent ns (Provision.initSecret config ns tokens value)).Steps
          (Stateful ApiServer.answer) v (.ok created) s') := by
  rw [ensureInitSecret, steps_bind_ok] at h
  obtain ⟨found, t, hfound, h⟩ := h
  rw [ExceptT.run_mk] at hfound
  refine ⟨found, t, hfound, ?_⟩
  cases found with
  | some secret =>
    obtain ⟨-, rfl⟩ := steps_pure.mp h
    exact .inl ⟨rfl, rfl⟩
  | none =>
    dsimp only at h
    rw [steps_bind_ok] at h
    obtain ⟨tokens, u, htokens, h⟩ := h
    rw [steps_bind_ok] at h
    obtain ⟨value, v, hproxy, h⟩ := h
    rw [steps_bind_ok] at h
    obtain ⟨created, w, hcreated, h⟩ := h
    obtain ⟨-, rfl⟩ := steps_pure.mp h
    rw [ExceptT.run_mk] at hcreated
    exact .inr ⟨rfl, tokens, u, value, v, created, htokens, hproxy, hcreated⟩

/-- **After an injection config secret was asked for, it is there.** -/
theorem contains_of_ensureInitSecret (hns : isPathText ns = true) (hs : s.Honest)
    (h : (ensureInitSecret operatorNs config ns).run.Steps (Stateful ApiServer.answer) s
      (.ok ()) s') :
    s'.objects.contains (secretPath ns initSecretName) = true := by
  obtain ⟨found, t, hfound, hend⟩ := steps_ensureInitSecret h
  rcases hend with ⟨hsome, rfl⟩ | ⟨-, tokens, u, value, v, created, htokens, hproxy, hcreated⟩
  · obtain ⟨secret, rfl⟩ := Option.isSome_iff_exists.mp hsome
    exact ApiServer.contains_of_secretIfPresent hns (by decide +kernel) (by decide +kernel) hfound
  · have hkeeps : ApiServer.Keeps s v :=
      ((ApiServer.keeps_of_steps hfound).trans (ApiServer.keeps_of_steps htokens)).trans
        (ApiServer.keeps_of_steps hproxy)
    have hthere := ApiServer.contains_of_createIfAbsent hns (hkeeps.honest hs) hcreated
    exact hthere

/-- The parts of a successful call for the endpoint secret: the fields are made from the tokens, and
then the secret is there, or it is created. -/
theorem steps_ensureEndpointSecret {σ : Type} {answers : (r : Request) → σ → r.Answer → σ → Prop}
    {s s' : σ} {fields : EndpointFields}
    (h : (ensureEndpointSecret operatorNs config ns).run.Steps answers s (.ok fields) s') :
    ∃ tokens t found u,
      (operatorSecret operatorNs config.tokensSecret).run.Steps answers s (.ok tokens) t ∧
      Provision.endpointFields config tokens = .ok fields ∧
      (secretIfPresent ns endpointSecretName).Steps answers t (.ok found) u ∧
      (found.isSome = true ∧ s' = u ∨ ∃ created,
        (createIfAbsent ns (Provision.endpointSecret ns fields)).Steps answers u
          (.ok created) s') := by
  rw [ensureEndpointSecret, steps_bind_ok] at h
  obtain ⟨tokens, t, htokens, h⟩ := h
  rw [steps_bind_ok] at h
  obtain ⟨fields', t', hpure, h⟩ := h
  obtain ⟨hfields, rfl⟩ := steps_done.mp hpure
  rw [steps_bind_ok] at h
  obtain ⟨found, u, hfound, h⟩ := h
  rw [ExceptT.run_mk] at hfound
  cases found with
  | some secret =>
    obtain ⟨rfl, rfl⟩ := steps_pure.mp h
    exact ⟨tokens, t', some secret, s', htokens, hfields.symm, hfound, .inl ⟨rfl, rfl⟩⟩
  | none =>
    dsimp only at h
    rw [steps_bind_ok] at h
    obtain ⟨created, v, hcreated, h⟩ := h
    obtain ⟨rfl, rfl⟩ := steps_pure.mp h
    rw [ExceptT.run_mk] at hcreated
    exact ⟨tokens, t', none, u, htokens, hfields.symm, hfound, .inr ⟨created, hcreated⟩⟩

/-- **After an endpoint secret was asked for, it is there.** -/
theorem contains_of_ensureEndpointSecret (hns : isPathText ns = true) (hs : s.Honest)
    {fields : EndpointFields}
    (h : (ensureEndpointSecret operatorNs config ns).run.Steps (Stateful ApiServer.answer) s
      (.ok fields) s') :
    s'.objects.contains (secretPath ns endpointSecretName) = true := by
  obtain ⟨tokens, t, found, u, htokens, -, hfound, hend⟩ := steps_ensureEndpointSecret h
  rcases hend with ⟨hsome, rfl⟩ | ⟨created, hcreated⟩
  · obtain ⟨secret, rfl⟩ := Option.isSome_iff_exists.mp hsome
    exact ApiServer.contains_of_secretIfPresent hns (by decide +kernel) (by decide +kernel) hfound
  · have hkeeps : ApiServer.Keeps s u :=
      (ApiServer.keeps_of_steps htokens).trans (ApiServer.keeps_of_steps hfound)
    have hthere := ApiServer.contains_of_createIfAbsent hns (hkeeps.honest hs) hcreated
    exact hthere

end Afterwards

end Client
end InjectionWebhook
