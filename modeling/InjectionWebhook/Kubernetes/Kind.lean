/-
# Kinds and where their objects are kept

An object reference names an API version and a kind.  The API server keeps objects by group, version
and the plural of the kind; `ApiResource.of` finds them from the reference alone.
-/
import InjectionWebhook.Text.Lowercase

namespace InjectionWebhook

/-- Group and version of an API version; the core group has an empty name. -/
def splitApiVersion (apiVersion : String) : String × String :=
  let cs := apiVersion.toList
  if '/' ∈ cs then
    (String.ofList (cs.takeWhile (· ≠ '/')), String.ofList ((cs.dropWhile (· ≠ '/')).drop 1))
  else ("", apiVersion)

/-- Kinds in everyday use, in lower case; their plurals add an `s`. -/
def commonKinds : List String :=
  ["replicaset", "deployment", "replicationcontroller", "statefulset", "daemonset", "job",
   "cronjob", "deploymentconfig", "workloadconfig"]

/-- The text ends with the given characters. -/
def endsIn (s ending : String) : Bool := ending.toList.isSuffixOf s.toList

/-- The plural of a kind, in lower case: `es` after a hiss, `ies` for a `y` after a consonant or a
vowel other than `a` and `e`, else `s`. -/
def pluralOf (kind : String) : String :=
  let lower := Text.lowercase kind
  if lower ∈ commonKinds then lower ++ "s"
  else if endsIn lower "s" || endsIn lower "ch" || endsIn lower "sh" then lower ++ "es"
  else if endsIn lower "y" && !endsIn lower "ay" && !endsIn lower "ey" then
    String.ofList lower.toList.dropLast ++ "ies"
  else lower ++ "s"

/-- Where the API server keeps the objects of a kind. -/
structure ApiResource where
  group : String
  version : String
  apiVersion : String
  kind : String
  plural : String
deriving DecidableEq

namespace ApiResource

/-- The resource of an API version and a kind. -/
def of (apiVersion kind : String) : ApiResource :=
  let (group, version) := splitApiVersion apiVersion
  { group, version, apiVersion, kind, plural := pluralOf kind }

/-- The path of the objects in a namespace, or of those without one. -/
def collection (r : ApiResource) (namespace_ : Option String) : String :=
  let root := if r.group.isEmpty then "/api/" else "/apis/"
  let within := match namespace_ with
    | some ns => "namespaces/" ++ ns ++ "/"
    | none => ""
  root ++ r.apiVersion ++ "/" ++ within ++ r.plural

/-- The resource of namespaces. -/
def namespaces : ApiResource := of "v1" "Namespace"

/-- The resource of Pods. -/
def pods : ApiResource := of "v1" "Pod"

/-- The resource of secrets. -/
def secrets : ApiResource := of "v1" "Secret"

end ApiResource

end InjectionWebhook
