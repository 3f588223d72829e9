/-
# What the supporting secrets hold

Two secrets stand in every namespace with injected Pods: the injection config (install script,
tenant settings, proxy) and the metrics endpoint.  Both are made from the config and the token
secret.

* `endpointFields` are URL and token of the endpoint, or what is missing for them;
* `initSecret` and `endpointSecret` are the secrets;
* `readProperties` reads an endpoint file back: a line is split at its first equals sign.
-/
import InjectionWebhook.Cluster.Failure
import InjectionWebhook.Injection.Attachment
import InjectionWebhook.Json.Writer
import InjectionWebhook.Kubernetes.Secret

namespace InjectionWebhook
namespace Provision

/-! ## 1. Keys -/

/-- Key of the metrics token in a token secret. -/
def ingestTokenSecretKey : String := "dataIngestToken"

/-- Key of the download token in a token secret. -/
def downloadTokenKey : String := "paasToken"

/-- Key of the install script. -/
def scriptKey : String := "init.sh"

/-- Key of the tenant settings. -/
def settingsKey : String := "config.json"

/-- Key of the endpoint file. -/
def propertiesKey : String := "endpoint.properties"

/-- The name under which the webhook owns objects. -/
def component : String := "beacon-webhook"

/-! ## 2. Endpoint fields -/

/-- A text without the slashes at its end. -/
def trimSlashes (s : String) : String :=
  String.ofList (s.toList.reverse.dropWhile (· = '/')).reverse

/-- The non-empty text at a key of a secret. -/
def required (data : Dict String) (secret key : String) : Except Failure String :=
  match nonEmpty? (data.get? key) with
  | some value => .ok value
  | none => .error (.notFound "secret key" (secret ++ "/" ++ key))

/-- URL and token of the endpoint. -/
def endpointFields (config : WorkloadConfig) (tokens : Dict String) :
    Except Failure EndpointFields := do
  let url := trimSlashes config.spec.apiUrl
  if url.isEmpty then throw (.invalid "spec.apiUrl" "must not be empty")
  let token ← required tokens config.tokensSecret ingestTokenSecretKey
  return .ofList [(ingestUrlKey, url ++ "/v2/metrics/ingest"), (ingestTokenKey, token)]

/-! ## 3. The secrets -/

/-- Metadata of an object the webhook makes. -/
def managedMeta (name ns : String) : ObjectMeta :=
  { name := some name, namespace_ := some ns
    labels := some (.ofList [("app.kubernetes.io/managed-by", component)]) }

/-- The install script. -/
def script : String :=
  "#!/usr/bin/env bash\nset -eu\nexec /opt/beacon/bin/beacon-install --config /mnt/config/config.json\n"

/-- The tenant settings of the install script. -/
def tenantSettings (config : WorkloadConfig) (tokens : Dict String) (proxy : Option String) :
    Json :=
  .obj [("apiUrl", .str config.spec.apiUrl), ("networkZone", .str (config.networkZone?.getD "")),
        ("paasToken", .str (tokens.textOr downloadTokenKey "")), ("proxy", .str (proxy.getD ""))]

/-- The injection config secret.  Containers take the proxy from it, so it has the key whenever
there is a proxy. -/
def initSecret (config : WorkloadConfig) (ns : String) (tokens : Dict String)
    (proxy : Option String) : Secret :=
  let entries :=
    [(scriptKey, script), (settingsKey, (tenantSettings config tokens proxy).render)] ++
      (match proxy with
        | some proxy => [(proxyKey, proxy)]
        | none => [])
  { metadata := managedMeta initSecretName ns
    data := some (Dict.ofList (entries.map fun e => (e.1, e.2.toUTF8))) }

/-- The endpoint file: a line `key=value` per field, in key order. -/
def properties (fields : EndpointFields) : String :=
  fields.entries.foldl (fun text e => text ++ (e.1 ++ "=" ++ e.2 ++ "\n")) ""

/-- The endpoint secret. -/
def endpointSecret (ns : String) (fields : EndpointFields) : Secret :=
  { metadata := managedMeta endpointSecretName ns
    data := some (.ofList [(propertiesKey, (properties fields).toUTF8)]) }

/-! ## 4. Reading an endpoint file -/

/-- The lines of a text that ends each line with a line feed. -/
def linesOf : List Char → List (List Char)
  | [] => []
  | c :: rest =>
    if c = '\n' then [] :: linesOf rest
    else match linesOf rest with
      | [] => [[c]]
      | line :: more => (c :: line) :: more

/-- The fields in an endpoint file; a line without equals sign is skipped. -/
def readProperties (text : String) : Dict String :=
  .ofList ((linesOf text.toList).filterMap fun line =>
    if '=' ∈ line then
      some (String.ofList (line.takeWhile (· ≠ '=')),
        String.ofList ((line.dropWhile (· ≠ '=')).drop 1))
    else none)

end Provision
end InjectionWebhook
