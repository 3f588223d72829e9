/-
# Answering an admission from an API server

`Client.answer` answers each question of an admission by requests to an API server.  Namespaces,
configs and owners are looked up; the supporting secrets are created where they are absent, from the
config and from the secrets in the operator's own namespace.

Several admissions may find a secret absent at the same time, so a name that is taken by the time of
the creation is no failure.
-/
import InjectionWebhook.Cluster.Request
import InjectionWebhook.Provision.Content
import InjectionWebhook.WorkloadConfig.Codec

namespace InjectionWebhook

/-! ## 1. Reading stored objects -/

namespace StoredObject

/-- What a document reader sees of a stored object: of a secret, its metadata. -/
def json : StoredObject → Json
  | .document j => j
  | .secret s => .record
    [("apiVersion", some (.str "v1")), ("kind", some (.str "Secret")),
     ("metadata", some s.metadata.toJson)]

/-- Reads a stored object, which is sent as a text. -/
def read (d : Decoder α) (o : StoredObject) : Except Flaw α := d.ofText o.json.render

/-- Reads a stored object as a secret. -/
def asSecret : StoredObject → Except Flaw Secret
  | .document j => read Secret.decoder (.document j)
  | .secret s => .ok s

/-- Reads the metadata of a stored object. -/
def metadata (o : StoredObject) : Except Flaw ObjectMeta :=
  (·.1) <$> o.read (.openRecord "struct PartialObjectMeta" {}
    [.plain "metadata" ObjectMeta.decoder fun v _ => v])

end StoredObject

namespace Client

/-! ## 2. Look-ups -/

/-- The resource of workload configs. -/
def workloadConfigs : ApiResource := .of WorkloadConfig.apiVersion WorkloadConfig.kind

/-- Gets a namespace. -/
def namespace_ (name : String) : RequestDialogue (Except Failure Namespace) :=
  getAs .namespaces none name (StoredObject.read Namespace.decoder)

/-- Gets a workload config, if there is one. -/
def workloadConfig (name : String) : RequestDialogue (Except Failure (Option WorkloadConfig)) :=
  getIfPresent workloadConfigs none name (StoredObject.read WorkloadConfig.decoder)

/-- Gets the metadata of an owner. -/
def owner (ref : OwnerReference) (ns : String) : RequestDialogue (Except Failure ObjectMeta) :=
  getAs (.of ref.apiVersion ref.kind) (some ns) ref.name StoredObject.metadata

/-- Gets a secret. -/
def secret (ns name : String) : RequestDialogue (Except Failure Secret) :=
  getAs .secrets (some ns) name StoredObject.asSecret

/-- Gets a secret, if there is one. -/
def secretIfPresent (ns name : String) : RequestDialogue (Except Failure (Option Secret)) :=
  getIfPresent .secrets (some ns) name StoredObject.asSecret

/-- The identity of the cluster: the uid of the namespace `kube-system`. -/
def clusterId : RequestDialogue (Except Failure String) :=
  (namespace_ "kube-system").bind fun r => .done <| do
    match (← r).metadata.uid with
    | some uid => return uid
    | none => throw (.internal "cluster_uid" "kube-system has no uid")

/-! ## 3. Provisions -/

/-- A dialogue that may fail. -/
abbrev Attempt (α : Type) := ExceptT Failure (Dialogue Request Request.Answer) α

/-- The text entries of a secret in the operator's namespace. -/
def operatorSecret (operatorNs name : String) : Attempt (Dict String) := do
  let found ← ExceptT.mk (secret operatorNs name)
  return found.texts

/-- The proxy of a config: the inline one, else the one in the secret it names. -/
def proxy (operatorNs : String) (config : WorkloadConfig) : Attempt (Option String) := do
  match config.inlineProxy?, config.proxySecret? with
  | some value, _ => return some value
  | none, some name =>
    let data ← operatorSecret operatorNs name
    some <$> ExceptT.mk (pure (Provision.required data name proxyKey))
  | none, none => return none

/-- Makes sure that the injection config secret is in a namespace. -/
def ensureInitSecret (operatorNs : String) (config : WorkloadConfig) (ns : String) :
    Attempt Unit := do
  match ← ExceptT.mk (secretIfPresent ns initSecretName) with
  | some _ => return ()
  | none =>
    let tokens ← operatorSecret operatorNs config.tokensSecret
    let proxy ← proxy operatorNs config
    let _ ← ExceptT.mk (createIfAbsent ns (Provision.initSecret config ns tokens proxy))

/-- Makes sure that the endpoint secret is in a namespace; answers the fields of the config. -/
def ensureEndpointSecret (operatorNs : String) (config : WorkloadConfig) (ns : String) :
    Attempt EndpointFields := do
  let tokens ← operatorSecret operatorNs config.tokensSecret
  let fields ← ExceptT.mk (pure (Provision.endpointFields config tokens))
  match ← ExceptT.mk (secretIfPresent ns endpointSecretName) with
  | some _ => return fields
  | none =>
    let _ ← ExceptT.mk (createIfAbsent ns (Provision.endpointSecret ns fields))
    return fields

/-! ## 4. All questions -/

/-- Announces an event. -/
def announce (event : Event) : RequestDialogue Unit := .ask (.announce event) .done

/-- Answers a question by requests. -/
def answer (operatorNs : String) : (q : Query) → RequestDialogue q.Answer
  | .namespace_ name => namespace_ name
  | .workloadConfig name => workloadConfig name
  | .owner ref ns => owner ref ns
  | .ensureInitSecret config ns => (ensureInitSecret operatorNs config ns).run
  | .ensureEndpointSecret config ns => (ensureEndpointSecret operatorNs config ns).run
  | .announce event => announce event

end Client

end InjectionWebhook
