/-
# A cluster by script

A script fixes the answer to every question of an admission, and how long each takes.
-/
import InjectionWebhook.Cluster.Query
import InjectionWebhook.Text.Duration

namespace InjectionWebhook

/-- The answers of a cluster. -/
structure ClusterScript where
  namespaces : Dict (Except Failure Namespace) := .empty
  configs : Dict (Except Failure WorkloadConfig) := .empty
  /-- Metadata of owners by API version, kind and name, with spaces between them. -/
  owners : Dict (Except Failure ObjectMeta) := .empty
  initSecret : Except Failure Unit := .ok ()
  endpoint : Except Failure EndpointFields := .ok .empty
  /-- How long a question takes, by its word. -/
  delays : Dict Duration := .empty

namespace ClusterScript

/-- The answer to a question. -/
def answer (s : ClusterScript) : (q : Query) → q.Answer
  | .namespace_ name => (s.namespaces.get? name).getD (.error (.notFound "Namespace" name))
  | .workloadConfig name =>
    match s.configs.get? name with
    | some r => r.map some
    | none => .ok none
  | .owner ref _ =>
    (s.owners.get? (ref.apiVersion ++ " " ++ ref.kind ++ " " ++ ref.name)).getD
      (.error (.notFound ref.kind ref.name))
  | .ensureInitSecret _ _ => s.initSecret
  | .ensureEndpointSecret _ _ => s.endpoint
  | .announce _ => ()

/-- How long a question takes; an announcement takes no time. -/
def delay (s : ClusterScript) (q : Query) : Duration := (q.verb?.bind s.delays.get?).getD ⟨0⟩

end ClusterScript

end InjectionWebhook
