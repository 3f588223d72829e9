/-
# The injection config secret: all or nothing

A call for a supporting secret reads first and writes last (`WritesLast`).  So a call that fails has
written nothing (`WritesLast.objects`), whatever failed and whatever the server holds.

What the injection config secret says is then settled by what the calls before its creation answered:
the tokens and the proxy are those of the operator's secrets as they are kept (`ApiServer.proxyOf?`),
the rest is what the config itself says, and the settings can be read back from their text, whatever
characters stand in them (`Faithful`).
-/
import InjectionWebhook.Proofs.Credentials
import InjectionWebhook.Proofs.Races
import InjectionWebhook.Proofs.Scanning

namespace InjectionWebhook

open Dialogue

/-! ## 1. Writing last -/

section WritesLast

variable {α β : Type}

/-- What creates one secret at most, and last: if it is made, all is done and well, and if it is
refused, all is done. -/
inductive WritesLast : RequestDialogue (Except Failure α) → Prop
  | done (r : Except Failure α) : WritesLast (.done r)
  | get {path : String} {next : Except ApiStatus StoredObject → RequestDialogue (Except Failure α)}
      (rest : ∀ r, WritesLast (next r)) : WritesLast (.ask (.get path) next)
  | create {collection : String} {secret : Secret}
      {next : Except ApiStatus Unit → RequestDialogue (Except Failure α)}
      (made : Succeeds (next (.ok ()))) (refused : ∀ status, ∃ r, next (.error status) = .done r) :
      WritesLast (.ask (.create collection secret) next)

/-- **All or nothing**: either nothing has changed, or all went well and one secret is new. -/
theorem WritesLast.objects {d : RequestDialogue (Except Failure α)} (h : WritesLast d)
    (s : ApiServer) :
    (d.runState ApiServer.answer s).2.objects = s.objects ∨
      (∃ a, (d.runState ApiServer.answer s).1 = .ok a) ∧
        ∃ path secret, s.objects.contains path = false ∧
          (d.runState ApiServer.answer s).2.objects = s.objects.insert path (.secret secret) := by
  induction h generalizing s with
  | done r => exact .inl rfl
  | @get path next rest ih =>
    have hrest := ih (ApiServer.answer (.get path) s).1 (ApiServer.answer (.get path) s).2
    rw [ApiServer.objects_get] at hrest
    exact hrest
  | @create collection secret next made refused =>
    have hrun : ((Dialogue.ask (.create collection secret) next).runState ApiServer.answer s) =
        (next (ApiServer.answer (.create collection secret) s).1).runState ApiServer.answer
          (ApiServer.answer (.create collection secret) s).2 := rfl
    rw [hrun]
    rcases s.create_cases collection secret with ⟨status, hstatus, hsame⟩ | ⟨hmade, hfree, hnew⟩
    · obtain ⟨r, hdone⟩ := refused status
      rw [hstatus, hdone]
      exact .inl hsame
    · obtain ⟨a, hdone⟩ := made
      rw [hmade, hdone]
      exact .inr ⟨⟨a, rfl⟩, _, secret, hfree, hnew⟩

/-- First it is read, then it is written. -/
theorem writesLast_bind {x : Client.Attempt β} {f : β → Client.Attempt α}
    (hx : x.run.Asks Client.Reads) (hf : ∀ b, WritesLast (f b).run) :
    WritesLast (x >>= f).run := by
  rw [run_bind_except]
  generalize x.run = d at hx ⊢
  induction hx with
  | done r =>
    cases r with
    | ok b => exact hf b
    | error e => exact .done _
  | @ask request next asked rest ih =>
    cases request with
    | get path => exact .get ih
    | create collection secret => exact asked.elim
    | announce event => exact asked.elim

/-- A creation is the last request, if nothing but an answer follows it. -/
theorem writesLast_createIfAbsent {ns : String} {secret : Secret} {g : Bool → Client.Attempt α}
    (hg : ∀ created, Succeeds (g created).run) :
    WritesLast (ExceptT.mk (createIfAbsent ns secret) >>= g).run := by
  rw [run_bind_except, ExceptT.run_mk]
  unfold createIfAbsent
  split
  · exact .done _
  · refine .create (hg true) fun status => ?_
    cases hconflict : status.failure.saysConflict with
    | true =>
      obtain ⟨a, ha⟩ := hg false
      exact ⟨.ok a, by simpa [hconflict] using ha⟩
    | false => exact ⟨.error status.failure, by simp [hconflict]⟩

end WritesLast

namespace Client

variable {operatorNs ns : String} {config : WorkloadConfig}

theorem writesLast_ensureInitSecret : WritesLast (ensureInitSecret operatorNs config ns).run := by
  have hget : ∀ path, Reads (.get path) := fun _ => trivial
  rw [ensureInitSecret]
  refine writesLast_bind (asks_secretIfPresent hget initSecretName) fun found => ?_
  cases found with
  | some secret => exact .done _
  | none =>
    refine writesLast_bind (asks_operatorSecret hget config.tokensSecret) fun tokens => ?_
    refine writesLast_bind (asks_proxy hget) fun proxy => ?_
    exact writesLast_createIfAbsent fun _ => succeeds_pure ()

theorem writesLast_ensureEndpointSecret :
    WritesLast (ensureEndpointSecret operatorNs config ns).run := by
  have hget : ∀ path, Reads (.get path) := fun _ => trivial
  rw [ensureEndpointSecret]
  refine writesLast_bind (asks_operatorSecret hget config.tokensSecret) fun tokens => ?_
  refine writesLast_bind (.done _) fun fields => ?_
  refine writesLast_bind (asks_secretIfPresent hget endpointSecretName) fun found => ?_
  cases found with
  | some secret => exact .done _
  | none => exact writesLast_createIfAbsent fun _ => succeeds_pure fields

end Client

/-- The answer to a call, and the server after it. -/
def ApiServer.call (s : ApiServer) (c : Call) : Except Failure c.Answer × ApiServer :=
  c.program.runState ApiServer.answer s

theorem ApiServer.steps_call (s : ApiServer) (c : Call) :
    c.program.Steps (Stateful answer) s (s.call c).1 (s.call c).2 :=
  steps_runState_iff.mpr rfl

/-- **A call for a supporting secret writes last.** -/
theorem Call.writesLast_program (c : Call) : WritesLast c.program := by
  cases c with
  | initSecret operatorNs config ns => exact Client.writesLast_ensureInitSecret
  | endpointSecret operatorNs config ns => exact Client.writesLast_ensureEndpointSecret

/-- **A call that fails has changed nothing.** -/
theorem Call.objects_of_error (c : Call) {s : ApiServer} {e : Failure}
    (h : (s.call c).1 = .error e) : (s.call c).2.objects = s.objects := by
  rcases c.writesLast_program.objects s with hsame | ⟨⟨a, ha⟩, -⟩
  · exact hsame
  · rw [ApiServer.call, ha] at h
    exact absurd h (by simp)

/-! ## 2. What the secret says -/

namespace Provision

variable {config : WorkloadConfig} {ns : String} {tokens : Dict String} {proxy : Option String}

theorem nameOrEmpty_initSecret :
    (initSecret config ns tokens proxy).metadata.nameOrEmpty = initSecretName := rfl

/-- **The injection config secret says the proxy it was made with.** -/
theorem get?_texts_proxy : (initSecret config ns tokens proxy).texts.get? proxyKey = proxy := by
  have hdata : ((initSecret config ns tokens proxy).data.getD .empty).get? proxyKey =
      proxy.map String.toUTF8 := by
    cases proxy <;> simp [initSecret, Dict.ofList, settingsKey, scriptKey, proxyKey]
  rw [Secret.get?_texts, hdata]
  cases proxy with
  | none => rfl
  | some proxy => exact fromUTF8?_toUTF8 proxy

/-- **The injection config secret says the tenant settings.** -/
theorem get?_texts_settings :
    (initSecret config ns tokens proxy).texts.get? settingsKey =
      some (tenantSettings config tokens proxy).render := by
  have hdata : ((initSecret config ns tokens proxy).data.getD .empty).get? settingsKey =
      some (tenantSettings config tokens proxy).render.toUTF8 := by
    cases proxy <;> simp [initSecret, Dict.ofList, settingsKey, scriptKey, proxyKey]
  exact Secret.get?_texts_iff.mpr (.inr ⟨rfl, hdata⟩)

/-- **The tenant settings can be read back from their text**, whatever they are. -/
theorem read_tenantSettings :
    Json.read (tenantSettings config tokens proxy).render = .ok (.obj
      [ ("apiUrl", .str config.spec.apiUrl),
        ("networkZone", .str (config.spec.networkZone.getD "")),
        ("paasToken", .str ((tokens.get? "paasToken").getD "")),
        ("proxy", .str (proxy.getD "")) ]) := by
  have hkeys : ["apiUrl", "networkZone", "paasToken", "proxy"].Pairwise (· < ·) := by
    decide +kernel
  have hzone : config.networkZone?.getD "" = config.spec.networkZone.getD "" := getD_nonEmpty? _
  rw [tenantSettings, hzone]
  exact Json.read_render
    [("apiUrl", config.spec.apiUrl), ("networkZone", config.spec.networkZone.getD ""),
     ("paasToken", (tokens.get? "paasToken").getD ""), ("proxy", proxy.getD "")] hkeys

end Provision

/-! ## 3. What is at hand -/

namespace ApiServer

/-- The secret that is kept under a name in a namespace. -/
def secretAt? (s : ApiServer) (ns name : String) : Option Secret :=
  match itemPath .secrets (some ns) name with
  | .error _ => none
  | .ok path => (s.objects.get? path).bind fun o => o.asSecret.toOption

/-- The proxy of a config: the inline one, else what the operator's secret says that it names.  What
is empty counts as nothing, be it the proxy or the name. -/
def proxyOf? (s : ApiServer) (operatorNs : String) (config : WorkloadConfig) : Option String :=
  config.spec.proxy.bind fun proxy =>
    proxy.value.filter (· ≠ "") <|> (proxy.valueFrom.filter (· ≠ "")).bind fun name =>
      (s.secretAt? operatorNs name).bind fun secret => (secret.texts.get? "proxy").filter (· ≠ "")

/-- The proxy of a config, as its accessors say it. -/
theorem proxyOf?_eq (s : ApiServer) (operatorNs : String) (config : WorkloadConfig) :
    s.proxyOf? operatorNs config =
      (config.inlineProxy? <|> config.proxySecret?.bind fun name =>
        (s.secretAt? operatorNs name).bind fun secret => nonEmpty? (secret.texts.get? proxyKey)) := by
  rw [proxyOf?, WorkloadConfig.inlineProxy?, WorkloadConfig.proxySecret?]
  simp only [nonEmpty?_eq_filter]
  cases config.spec.proxy <;> rfl

/-- Without an inline proxy, and where no secret says the one it should, no proxy is at hand. -/
theorem proxyOf?_eq_none {s : ApiServer} {operatorNs : String} {config : WorkloadConfig}
    (hinline : ∀ proxy ∈ config.spec.proxy, ∀ value ∈ proxy.value, value = "")
    (hsecret : ∀ proxy ∈ config.spec.proxy, ∀ name ∈ proxy.valueFrom,
      ∀ secret, s.secretAt? operatorNs name = some secret →
        ∀ text ∈ secret.texts.get? "proxy", text = "") :
    s.proxyOf? operatorNs config = none := by
  refine Option.bind_eq_none_iff.mpr fun proxy hproxy => ?_
  have hvalue : proxy.value.filter (· ≠ "") = none := by
    simpa using hinline proxy hproxy
  rw [hvalue]
  change ((proxy.valueFrom.filter (· ≠ "")).bind _) = none
  refine Option.bind_eq_none_iff.mpr fun name hname =>
    Option.bind_eq_none_iff.mpr fun secret hs => ?_
  simpa using hsecret proxy hproxy name (Option.filter_eq_some_iff.mp hname).1 secret hs

theorem secretAt?_congr {s t : ApiServer} (h : t.objects = s.objects) (ns name : String) :
    t.secretAt? ns name = s.secretAt? ns name := by
  rw [secretAt?, secretAt?, h]

theorem proxyOf?_congr {s t : ApiServer} (h : t.objects = s.objects) (operatorNs : String)
    (config : WorkloadConfig) : t.proxyOf? operatorNs config = s.proxyOf? operatorNs config := by
  simp only [proxyOf?, secretAt?_congr h]

/-- A look for a secret says that there is none. -/
def Lacks (s : ApiServer) (ns name : String) : Prop :=
  ((Client.secretIfPresent ns name).runState answer s).1 = .ok none

/-- Where nothing is kept, a look says so. -/
theorem lacks_of_absent {s : ApiServer} {ns name : String} (hns : isPathText ns = true)
    (hname : isPathText name = true) (hne : name.isEmpty = false)
    (hfault : s.fault? (.get (secretPath ns name)) = none)
    (habsent : s.objects.get? (secretPath ns name) = none) : s.Lacks ns name := by
  rw [Lacks, Client.secretIfPresent_eq hns hname hne]
  change Client.seen (answer (.get (secretPath ns name)) s).1 = .ok none
  rw [answer_get, hfault, habsent]
  rfl

end ApiServer

namespace Client

variable {operatorNs ns name : String} {config : WorkloadConfig} {s s' : ApiServer}

/-- A secret that was read is the one that is kept. -/
theorem secretAt?_of_steps {found : Secret}
    (h : (secret ns name).Steps (Stateful ApiServer.answer) s (.ok found) s') :
    s.secretAt? ns name = some found := by
  rw [secret, getAs, steps_bind] at h
  obtain ⟨object, t, hobject, hdone⟩ := h
  obtain ⟨hread, -⟩ := steps_done.mp hdone
  rw [getObject] at hobject
  rw [ApiServer.secretAt?]
  cases hpath : itemPath .secrets (some ns) name with
  | error e =>
    rw [hpath] at hobject
    obtain ⟨rfl, -⟩ := steps_done.mp hobject
    exact absurd hread (by simp)
  | ok path =>
    rw [hpath, steps_ask] at hobject
    obtain ⟨r, u, hr, hdone⟩ := hobject
    obtain ⟨rfl, -⟩ := steps_done.mp hdone
    cases r with
    | error status => exact absurd hread (by simp [Except.mapError])
    | ok o =>
      have hkept := ApiServer.get?_of_answer_get (congrArg Prod.fst hr).symm
      have hsecret : o.asSecret = .ok found := mapError_eq_ok.mp hread.symm
      dsimp only
      rw [hkept, Option.bind_some, hsecret]
      rfl

theorem secretAt?_of_steps_operatorSecret {data : Dict String}
    (h : (operatorSecret operatorNs name).run.Steps (Stateful ApiServer.answer) s (.ok data) s') :
    ∃ found, s.secretAt? operatorNs name = some found ∧ data = found.texts := by
  rw [operatorSecret, steps_bind_ok] at h
  obtain ⟨found, t, hfound, hdone⟩ := h
  obtain ⟨rfl, -⟩ := steps_pure.mp hdone
  rw [ExceptT.run_mk] at hfound
  exact ⟨found, secretAt?_of_steps hfound, rfl⟩

/-- **The proxy that was found is the one that is at hand.** -/
theorem proxyOf?_of_steps {found : Option String}
    (h : (proxy operatorNs config).run.Steps (Stateful ApiServer.answer) s (.ok found) s') :
    s.proxyOf? operatorNs config = found := by
  rw [proxy] at h
  rw [ApiServer.proxyOf?_eq]
  cases hinline : config.inlineProxy? with
  | some value =>
    rw [hinline] at h
    obtain ⟨rfl, -⟩ := steps_pure.mp h
    rfl
  | none =>
    cases hsecret : config.proxySecret? with
    | none =>
      rw [hinline, hsecret] at h
      obtain ⟨rfl, -⟩ := steps_pure.mp h
      rfl
    | some name =>
      rw [hinline, hsecret, steps_bind_ok] at h
      obtain ⟨data, t, hdata, h⟩ := h
      obtain ⟨value, hvalue, rfl⟩ := steps_map_ok.mp h
      obtain ⟨hrequired, -⟩ := steps_done.mp hvalue
      obtain ⟨kept, hkept, rfl⟩ := secretAt?_of_steps_operatorSecret hdata
      have htext := Provision.required_eq_ok_iff.mp hrequired.symm
      change ((s.secretAt? operatorNs name).bind fun secret =>
        nonEmpty? (secret.texts.get? proxyKey)) = some value
      rw [hkept, Option.bind_some, htext]

end Client

/-! ## 4. What is created -/

/-- A secret says what the config and the operator's secrets say. -/
structure Faithful (s : ApiServer) (operatorNs : String) (config : WorkloadConfig)
    (secret : Secret) : Prop where
  /-- A config has a proxy where it gives one, -/
  given : config.hasProxy = true ↔ config.GivesProxy
  /-- the secret has the proxy key exactly if the config has a proxy, -/
  hasKey : secret.hasKey "proxy" = config.hasProxy
  /-- and the proxy is then at hand, -/
  isSome : (s.proxyOf? operatorNs config).isSome = config.hasProxy
  /-- and the secret says this proxy. -/
  proxy : secret.texts.get? "proxy" = s.proxyOf? operatorNs config
  /-- Its settings are a text that is read as an object of four texts: what the config says of the
  address and of the network zone, what the token secret says of the download token, and the proxy,
  each empty where nothing is said. -/
  settings : ∃ tokens text,
    s.secretAt? operatorNs (config.spec.tokens.getD (config.metadata.name.getD "")) = some tokens ∧
    secret.texts.get? "config.json" = some text ∧
    Json.read text = .ok (.obj
      [ ("apiUrl", .str config.spec.apiUrl),
        ("networkZone", .str (config.spec.networkZone.getD "")),
        ("paasToken", .str ((tokens.texts.get? "paasToken").getD "")),
        ("proxy", .str ((s.proxyOf? operatorNs config).getD "")) ])

namespace Client

variable {operatorNs ns : String} {config : WorkloadConfig} {s s' : ApiServer}

/-- A creation that changes something puts the secret into its collection. -/
theorem objects_of_steps_createIfAbsent {secret : Secret} {r : Except Failure Bool}
    (h : (createIfAbsent ns secret).Steps (Stateful ApiServer.answer) s r s')
    (hchanged : s'.objects ≠ s.objects) :
    ∃ collection, collectionPath .secrets (some ns) = .ok collection ∧
      s.objects.contains (ApiServer.pathOf collection secret) = false ∧
      s'.objects = s.objects.insert (ApiServer.pathOf collection secret) (.secret secret) := by
  unfold createIfAbsent at h
  cases hpath : collectionPath .secrets (some ns) with
  | error e =>
    rw [hpath] at h
    obtain ⟨-, rfl⟩ := steps_done.mp h
    exact absurd rfl hchanged
  | ok collection =>
    rw [hpath, steps_ask] at h
    obtain ⟨r, t, hr, h⟩ := h
    have hafter : s' = (ApiServer.answer (.create collection secret) s).2 := by
      have hlast : s' = t := by cases r <;> exact (steps_done.mp h).2
      rw [hlast]
      exact congrArg Prod.snd hr
    rw [hafter] at hchanged ⊢
    rcases s.create_cases collection secret with ⟨-, -, hsame⟩ | ⟨-, hfree, hnew⟩
    · exact absurd hsame hchanged
    · exact ⟨collection, rfl, hfree, hnew⟩

/-- A successful call finds the injection config secret, or creates it from what is at hand. -/
theorem atHand_of_ensureInitSecret
    (h : (ensureInitSecret operatorNs config ns).run.Steps (Stateful ApiServer.answer) s
      (.ok ()) s') :
    ¬ s.Lacks ns initSecretName ∧ s'.objects = s.objects ∨
      s.Lacks ns initSecretName ∧
        (s.proxyOf? operatorNs config).isSome = config.hasProxy ∧
        ∃ tokens t created, s.secretAt? operatorNs config.tokensSecret = some tokens ∧
          t.objects = s.objects ∧
          (createIfAbsent ns (Provision.initSecret config ns tokens.texts
            (s.proxyOf? operatorNs config))).Steps (Stateful ApiServer.answer) t
              (.ok created) s' := by
  have hget : ∀ path, Reads (.get path) := fun _ => trivial
  obtain ⟨found, t, hfound, hend⟩ := steps_ensureInitSecret h
  have hreads : (secretIfPresent ns initSecretName).Asks Reads := by
    rw [secretIfPresent]
    exact asks_getIfPresent hget _ _ _ _
  have ht := objects_of_reads hreads hfound
  have hlook := congrArg Prod.fst (steps_runState_iff.mp hfound)
  rcases hend with ⟨hsome, rfl⟩ | ⟨rfl, tokens, u, value, v, created, htokens, hproxy, hcreated⟩
  · have hfound : ¬ s.Lacks ns initSecretName := by
      intro hlacks
      rw [Except.ok.inj (hlook.trans hlacks)] at hsome
      exact Bool.false_ne_true hsome
    exact .inl ⟨hfound, ht⟩
  · have hu : u.objects = s.objects :=
      (objects_of_reads (asks_operatorSecret hget config.tokensSecret) htokens).trans ht
    have hv : v.objects = s.objects := (objects_of_reads (asks_proxy hget) hproxy).trans hu
    obtain ⟨kept, hkept, rfl⟩ := secretAt?_of_steps_operatorSecret htokens
    have hathand : s.proxyOf? operatorNs config = value := by
      rw [← ApiServer.proxyOf?_congr hu]
      exact proxyOf?_of_steps hproxy
    rw [ApiServer.secretAt?_congr ht] at hkept
    rw [hathand]
    exact .inr ⟨hlook.symm, isSome_of_steps_proxy hproxy, kept, v, created, hkept, hv, hcreated⟩

end Client

/-- The secret that is made from what is at hand says so. -/
theorem faithful_initSecret {s : ApiServer} {operatorNs ns : String} {config : WorkloadConfig}
    {tokens : Secret} (hproxy : (s.proxyOf? operatorNs config).isSome = config.hasProxy)
    (htokens : s.secretAt? operatorNs config.tokensSecret = some tokens) :
    Faithful s operatorNs config
      (Provision.initSecret config ns tokens.texts (s.proxyOf? operatorNs config)) where
  given := WorkloadConfig.hasProxy_iff
  hasKey := (Provision.hasKey_initSecret _ _ _ _).trans hproxy
  isSome := hproxy
  proxy := Provision.get?_texts_proxy
  settings := ⟨tokens, _, htokens, Provision.get?_texts_settings, Provision.read_tenantSettings⟩

/-- What calls for the supporting secrets of a namespace do, all in all. -/
structure Provides (s : ApiServer) (operatorNs : String) (config : WorkloadConfig)
    (ns : String) : Prop where
  /-- A call that fails has created nothing and changed nothing, -/
  init_allOrNothing : ∀ e, (s.call (.initSecret operatorNs config ns)).1 = .error e →
    (s.call (.initSecret operatorNs config ns)).2.objects = s.objects
  /-- whichever of the two secrets it is for. -/
  endpoint_allOrNothing : ∀ e, (s.call (.endpointSecret operatorNs config ns)).1 = .error e →
    (s.call (.endpointSecret operatorNs config ns)).2.objects = s.objects
  /-- What a call for the injection config secret changes, it changes where a look found none: it
  creates a faithful secret and nothing else. -/
  created : (s.call (.initSecret operatorNs config ns)).2.objects ≠ s.objects →
    s.Lacks ns "beacon-injection-config" ∧ ∃ collection secret,
      collectionPath .secrets (some ns) = .ok collection ∧
      secret.metadata =
        { name := some "beacon-injection-config", namespace_ := some ns
          labels := some (.ofList [("app.kubernetes.io/managed-by", "beacon-webhook")]) } ∧
      s.objects.contains (collection ++ "/" ++ "beacon-injection-config") = false ∧
      (s.call (.initSecret operatorNs config ns)).2.objects =
        s.objects.insert (collection ++ "/" ++ "beacon-injection-config") (.secret secret) ∧
      Faithful s operatorNs config secret
  /-- It does so whenever it succeeds where nothing is kept, unless the server lies. -/
  creates : isPathText ns = true → s.Honest →
    s.objects.contains (secretPath ns "beacon-injection-config") = false →
    (s.call (.initSecret operatorNs config ns)).1 = .ok () →
    (s.call (.initSecret operatorNs config ns)).2.objects ≠ s.objects
  /-- Where a look finds none, a proxy that the operator's secret should say and does not say makes
  the call fail: there is no such secret, or it has no such key, or nothing under it. -/
  fails : s.Lacks ns "beacon-injection-config" → config.GivesProxy →
    (∀ proxy ∈ config.spec.proxy, ∀ value ∈ proxy.value, value = "") →
    (∀ proxy ∈ config.spec.proxy, ∀ name ∈ proxy.valueFrom,
      ∀ secret, s.secretAt? operatorNs name = some secret →
        ∀ text ∈ secret.texts.get? "proxy", text = "") →
    ∃ e, (s.call (.initSecret operatorNs config ns)).1 = .error e

/-- **The supporting secrets are made all or nothing, and the injection config secret is made
faithfully.** -/
theorem provides_call (s : ApiServer) (operatorNs : String) (config : WorkloadConfig)
    (ns : String) : Provides s operatorNs config ns := by
  have hcall := s.steps_call (.initSecret operatorNs config ns)
  refine ⟨fun _ => Call.objects_of_error (.initSecret operatorNs config ns),
    fun _ => Call.objects_of_error (.endpointSecret operatorNs config ns), fun hchanged => ?_,
    fun hns hhonest hfree hresult hsame => ?_, fun hlacks hgiven hinline hsecret => ?_⟩
  · cases hresult : (s.call (.initSecret operatorNs config ns)).1 with
    | error e => exact absurd (Call.objects_of_error _ hresult) hchanged
    | ok u =>
      rw [hresult] at hcall
      rcases Client.atHand_of_ensureInitSecret hcall with ⟨-, hsame⟩ |
        ⟨hlacks, hproxy, tokens, t, created, htokens, ht, hcreated⟩
      · exact absurd hsame hchanged
      · rw [← ht] at hchanged
        obtain ⟨collection, hcollection, hfree, hnew⟩ :=
          Client.objects_of_steps_createIfAbsent hcreated hchanged
        rw [ht, ApiServer.pathOf, Provision.nameOrEmpty_initSecret] at hfree hnew
        exact ⟨hlacks, collection,
          Provision.initSecret config ns tokens.texts (s.proxyOf? operatorNs config),
          hcollection, rfl, hfree, hnew, faithful_initSecret hproxy htokens⟩
  · rw [hresult] at hcall
    have hthere : (s.call (.initSecret operatorNs config ns)).2.objects.contains
        (secretPath ns "beacon-injection-config") = true :=
      Client.contains_of_ensureInitSecret hns hhonest hcall
    rw [hsame, hfree] at hthere
    exact Bool.false_ne_true hthere
  · cases hresult : (s.call (.initSecret operatorNs config ns)).1 with
    | error e => exact ⟨e, rfl⟩
    | ok u =>
      rw [hresult] at hcall
      rcases Client.atHand_of_ensureInitSecret hcall with ⟨hthere, -⟩ | ⟨-, hproxy, -⟩
      · exact absurd hlacks hthere
      · have hnone := ApiServer.proxyOf?_eq_none hinline hsecret
        rw [hnone, WorkloadConfig.hasProxy_iff.mpr hgiven] at hproxy
        exact absurd hproxy (by simp)

/-- The config of the shop, with a network zone, and with a proxy that a secret of the operator
says. -/
def proxiedConfig : WorkloadConfig :=
  { Admission.shopConfig with
    spec := { Admission.shopConfig.spec with
      networkZone := some "zone \"ä\""
      proxy := some { value := some "", valueFrom := some "shop-proxy" } } }

/-- The shop, with that secret.  There are quotes and a line feed in the proxy. -/
def proxiedShop : ApiServer :=
  { (World.shopWorld none).server with
    objects := (World.shopWorld none).server.objects.insert (secretPath "beacon" "shop-proxy")
      (.secret { data := some (.ofList [(proxyKey, "\"proxy\"\n".toUTF8)]) }) }

/-- In the shop a faithful secret is created, and without the operator's secret the call fails. -/
theorem provides_in_proxied_shop :
    (proxiedShop.call (.initSecret "beacon" proxiedConfig "shop")).2.objects ≠ proxiedShop.objects ∧
      (∃ secret text, Faithful proxiedShop "beacon" proxiedConfig secret ∧
        secret.texts.get? "proxy" = some "\"proxy\"\n" ∧
        secret.texts.get? "config.json" = some text ∧
        Json.read text = .ok (.obj
          [ ("apiUrl", .str "https://beacon.example"), ("networkZone", .str "zone \"ä\""),
            ("paasToken", .str "p"), ("proxy", .str "\"proxy\"\n") ])) ∧
      ∃ e, ((World.shopWorld none).server.call (.initSecret "beacon" proxiedConfig "shop")).1 =
        .error e := by
  have hns : isPathText "shop" = true := by decide
  have hhonest : proxiedShop.Honest :=
    fun _ _ h => absurd h (by simp [proxiedShop, World.shopWorld, Dict.get?, Dict.empty])
  have hresult : (proxiedShop.call (.initSecret "beacon" proxiedConfig "shop")).1 = .ok () := by
    have hwell : (proxiedShop.call (.initSecret "beacon" proxiedConfig "shop")).1.toBool = true := by
      decide +kernel
    cases hcase : (proxiedShop.call (.initSecret "beacon" proxiedConfig "shop")).1 with
    | ok u => rfl
    | error e =>
      rw [hcase] at hwell
      exact absurd hwell Bool.false_ne_true
  have hchanged := (provides_call proxiedShop "beacon" proxiedConfig "shop").creates hns hhonest
    (by decide +kernel) hresult
  have hproxy : proxiedShop.proxyOf? "beacon" proxiedConfig = some "\"proxy\"\n" := by
    decide +kernel
  obtain ⟨-, -, secret, -, -, -, -, hfaithful⟩ :=
    (provides_call proxiedShop "beacon" proxiedConfig "shop").created hchanged
  obtain ⟨tokens, text, htokens, htext, hread⟩ := hfaithful.settings
  have htoken : (proxiedShop.secretAt? "beacon" "shop-config").bind
      (fun tokens => tokens.texts.get? "paasToken") = some "p" := by decide +kernel
  rw [show proxiedShop.secretAt? "beacon" "shop-config" = some tokens from htokens,
    Option.bind_some] at htoken
  rw [hproxy, htoken] at hread
  refine ⟨hchanged, ⟨secret, text, hfaithful, hfaithful.proxy.trans hproxy, htext, hread⟩, ?_⟩
  have habsent : (World.shopWorld none).server.secretAt? "beacon" "shop-proxy" = none := by
    decide +kernel
  refine (provides_call (World.shopWorld none).server "beacon" proxiedConfig "shop").fails
    (ApiServer.lacks_of_absent hns (by decide +kernel) (by decide +kernel) (by decide +kernel)
      (by decide +kernel)) (by decide) (fun proxy hproxy => ?_) fun proxy hproxy name hname => ?_
  · rw [← Option.some.inj hproxy]
    decide
  · rw [← Option.some.inj hproxy] at hname
    obtain rfl : "shop-proxy" = name := Option.some.inj hname
    rw [habsent]
    exact fun _ h => absurd h (by simp)

end InjectionWebhook
