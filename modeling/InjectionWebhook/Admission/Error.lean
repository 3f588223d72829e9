/-
# Why an admission fails

Each cause has its text and its code.  A failure that the user can mend in the request's own
surroundings (an unbound namespace, a missing config, unusable secrets) is a denial with code 400;
any other failure has code 500.
-/
import InjectionWebhook.Cluster.Failure
import InjectionWebhook.Text.Duration

namespace InjectionWebhook

/-- Why an admission fails. -/
inductive AdmissionError where
  /-- The request holds no Pod that can be read. -/
  | undecodable (message : String)
  /-- The namespace cannot be read. -/
  | namespaceLookup (ns : String) (cause : Failure)
  /-- The namespace is not bound to a config. -/
  | unbound (ns : String)
  /-- The config the namespace is bound to does not exist. -/
  | configMissing (config ns : String)
  /-- The config cannot be read. -/
  | configLookup (config : String) (cause : Failure)
  /-- The supporting secrets cannot be made sure of, or lack something. -/
  | secrets (ns : String) (cause : Failure)
  /-- The workload of the Pod cannot be found. -/
  | owner (pod : String) (cause : Failure)
  /-- The changed Pod cannot be written as a patch. -/
  | patch (message : String)
  /-- The admission took too long. -/
  | expired (limit : Duration)

namespace AdmissionError

/-- The text of an admission error. -/
def message : AdmissionError → String
  | .undecodable message => "failed to decode pod: " ++ message
  | .namespaceLookup ns cause => "failed to query namespace '" ++ ns ++ "': " ++ cause.message
  | .unbound ns => "namespace '" ++ ns ++ "' has no WorkloadConfig label"
  | .configMissing config ns =>
    "WorkloadConfig '" ++ config ++ "' is assigned to namespace '" ++ ns ++
      "', but WorkloadConfig '" ++ config ++ "' does not exist"
  | .configLookup config cause =>
    "failed to query WorkloadConfig '" ++ config ++ "': " ++ cause.message
  | .secrets ns cause =>
    "failed to provision injection secrets in namespace '" ++ ns ++ "': " ++ cause.message
  | .owner pod cause => "failed to resolve workload of pod '" ++ pod ++ "': " ++ cause.message
  | .patch message => "failed to build patch: " ++ message
  | .expired limit => "admission deadline of " ++ limit.text ++ " exceeded"

/-- The user can mend it. -/
def isDenial : AdmissionError → Bool
  | .unbound _ | .configMissing _ _ | .secrets _ _ => true
  | _ => false

/-- The code reported with the refusal. -/
def code (e : AdmissionError) : Nat := if e.isDenial then 400 else 500

end AdmissionError

end InjectionWebhook
