/-
# The schema of workload configs

The manifest that tells an API server about workload configs: their names, the columns of a listing,
and a schema of every member.  A member that may be left out is nullable or has a default; lists and
maps that are left out when empty have neither.
-/
import InjectionWebhook.WorkloadConfig.Codec

namespace InjectionWebhook

/-- The schema of one member. -/
structure Schema where
  type : String
  description : Option String := none
  nullable : Bool := false
  default : Option Json := none
  /-- Schema of the elements of a list. -/
  items : Option Json := none
  /-- Schema of the values of a map. -/
  values : Option Json := none
  /-- Members of a record, in ascending order. -/
  members : Option (List (String × Json)) := none
  required : List String := []
  title : Option String := none

namespace Schema

/-- Writes a schema. -/
def toJson (s : Schema) : Json := .record
  [("additionalProperties", s.values), ("default", s.default),
   ("description", s.description.map .str),
   ("items", s.items), ("nullable", if s.nullable then some (.bool true) else none),
   ("properties", s.members.map .obj),
   ("required", if s.required.isEmpty then none else some (.ofList .str s.required)),
   ("title", s.title.map .str), ("type", some (.str s.type))]

/-- A text without further words. -/
def plainText : Json := toJson { type := "string" }

/-- A text that may be left out. -/
def optionalText (description : String) : Json :=
  toJson { type := "string", description := some description, nullable := true }

/-- A switch that is off by default. -/
def switch (description : String) : Json :=
  toJson { type := "boolean", description := some description, default := some (.bool false) }

/-- A list of texts. -/
def textList (description : String) : Json :=
  toJson { type := "array", description := some description, items := some plainText }

/-- A map of texts. -/
def textMap (description : String) : Json :=
  toJson { type := "object", description := some description, values := some plainText }

/-- A record that may be left out. -/
def optionalRecord (description : String) (members : List (String × Json)) : Json :=
  toJson
    { type := "object", description := some description, nullable := true, members := some members }

/-- A record that has a default. -/
def defaultRecord (description : String) (default : Json) (members : List (String × Json)) : Json :=
  toJson
    { type := "object", description := some description, default := some default
      members := some members }

/-! ## 1. The members of a config -/

/-- Image and resources of the install container. -/
def initMembers : List (String × Json) :=
  [ ("initImage",
      optionalText "Image for the install init container. Defaults to the webhook image."),
    ("initResources", optionalRecord "Resources for the install init container"
      [ ("limits", textMap "Resource limits (e.g. `memory: 60Mi`)"),
        ("requests", textMap "Resource requests (e.g. `cpu: 30m`)") ]) ]

/-- Arguments of a host agent. -/
def hostMembers : List (String × Json) :=
  [("args", textList "Extra arguments passed to the host agent")]

/-- The agent mode. -/
def agentMode : Json :=
  defaultRecord "Agent deployment mode" (AgentMode.toJson {})
    [ ("applicationMonitoring", optionalRecord "Application injection only"
        (initMembers ++
          [("useCSIDriver",
            switch "Serve agent binaries through the CSI driver instead of downloading them")])),
      ("classicFullStack",
        optionalRecord "Host agent on every node, no application injection" hostMembers),
      ("cloudNativeFullStack",
        optionalRecord "Host agent plus application injection backed by the CSI driver"
          initMembers),
      ("hostMonitoring", optionalRecord "Host monitoring only" hostMembers) ]

/-- The feature switches. -/
def features : Json :=
  defaultRecord "Feature switches" (FeatureFlags.toJson {})
    [ ("disableMetadataEnrichment",
        switch "Force data-ingest enrichment off for every Pod bound to this config"),
      ("enableWebhookReinvocationPolicy",
        switch "Repair containers added after the first injection on reinvocation") ]

/-- The proxy. -/
def proxy : Json :=
  optionalRecord "Proxy used by the agents"
    [ ("value", optionalText "Proxy URL"),
      ("valueFrom", optionalText "Name of a secret holding the proxy URL under the `proxy` key") ]

/-- What is said about configs as a whole. -/
def overview : String :=
  "WorkloadConfig binds agent injection settings to namespaces.\n\nExample:\n```yaml\n" ++
  "apiVersion: beacon.dev/v1alpha1\nkind: WorkloadConfig\nmetadata:\n  name: production\nspec:\n" ++
  "  apiUrl: https://tenant.example.com/api\n  networkZone: eu-west\n  oneAgent:\n" ++
  "    applicationMonitoring:\n      useCSIDriver: true\n  features:\n" ++
  "    enableWebhookReinvocationPolicy: true\n```"

/-- The specification. -/
def spec : Json := toJson
  { type := "object", description := some overview, required := ["apiUrl"]
    members := some
      [ ("activeGate", optionalRecord "ActiveGate settings relevant to injected agents"
          [("tlsSecretName",
            optionalText "Secret with the ActiveGate TLS certificate; agents must trust it")]),
        ("apiUrl",
          toJson
            { type := "string", description := some "Tenant API endpoint the agents report to" }),
        ("features", features),
        ("networkZone", optionalText "Network zone the agents connect through"),
        ("oneAgent", agentMode),
        ("proxy", proxy),
        ("tokens", optionalText
          ("Name of the secret (in the operator namespace) holding API tokens.\n" ++
            "Defaults to the WorkloadConfig name.")) ] }

/-- A config. -/
def config : Json := toJson
  { type := "object", required := ["spec"], title := some "WorkloadConfig"
    description := some
      "Auto-generated derived type for WorkloadConfigSpec via `CustomResource`"
    members := some [("spec", spec)] }

/-! ## 2. The manifest -/

/-- A column of a listing. -/
def column (name type path : String) : Json :=
  .obj [("jsonPath", .str path), ("name", .str name), ("type", .str type)]

/-- The one version of the resource. -/
def version : Json := .obj
  [ ("additionalPrinterColumns", .arr
      [column "ApiUrl" "string" ".spec.apiUrl", column "Age" "date" ".metadata.creationTimestamp"]),
    ("name", .str "v1alpha1"), ("schema", .obj [("openAPIV3Schema", config)]),
    ("served", .bool true), ("storage", .bool true), ("subresources", .obj []) ]

/-- The manifest of the resource. -/
def manifest : Json := .obj
  [ ("apiVersion", .str "apiextensions.k8s.io/v1"), ("kind", .str "CustomResourceDefinition"),
    ("metadata", .obj [("name", .str "workloadconfigs.beacon.dev")]),
    ("spec", .obj
      [ ("group", .str "beacon.dev"),
        ("names", .obj
          [ ("categories", .arr []), ("kind", .str WorkloadConfig.kind),
            ("plural", .str "workloadconfigs"), ("shortNames", .arr [.str "wlc"]),
            ("singular", .str "workloadconfig") ]),
        ("scope", .str "Cluster"), ("versions", .arr [version]) ]) ]

end Schema
end InjectionWebhook
