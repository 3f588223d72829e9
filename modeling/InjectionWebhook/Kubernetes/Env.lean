/-
# Environment variables

A variable of a container has a plain value or takes it from somewhere: from a field of the Pod,
from a key of a secret, from a key of a config map.
-/
import InjectionWebhook.Json.Record

namespace InjectionWebhook

/-! ## 1. Variables and their sources -/

/-- A key of a secret. -/
structure SecretKeyRef where
  name : String
  key : String
  optional : Option Bool := none
deriving DecidableEq

/-- A key of a config map. -/
structure ConfigMapKeyRef where
  name : String
  key : String
deriving DecidableEq

/-- Where the value of a variable is taken from. -/
structure EnvSource where
  /-- A field of the Pod, by its path. -/
  fieldPath : Option String := none
  secretKey : Option SecretKeyRef := none
  configMapKey : Option ConfigMapKeyRef := none
deriving DecidableEq

/-- An environment variable. -/
structure EnvVar where
  name : String
  value : Option String := none
  source : Option EnvSource := none
deriving DecidableEq

/-- A variable with a plain value. -/
def EnvVar.plain (name value : String) : EnvVar := { name, value := some value }

@[simp] theorem EnvVar.name_plain (name value : String) : (EnvVar.plain name value).name = name :=
  rfl

/-- A variable that takes a field of the Pod. -/
def EnvVar.ofField (name path : String) : EnvVar :=
  { name, source := some { fieldPath := some path } }

/-! ## 2. Reading and writing -/

namespace SecretKeyRef

/-- Reads a reference to a secret key. -/
def decoder : Decoder SecretKeyRef := .object "SecretKeySelector" { name := "", key := "" }
  [.orDefault "key" .text "" fun v r => { r with key := v },
   .orDefault "name" .text "" fun v r => { r with name := v },
   .optional "optional" .flag fun v r => { r with optional := v }]

/-- Writes a reference to a secret key. -/
def toJson (r : SecretKeyRef) : Json := .record
  [("key", some (.str r.key)), ("name", some (.str r.name)), ("optional", r.optional.map .bool)]

end SecretKeyRef

namespace ConfigMapKeyRef

/-- Reads a reference to a config map key. -/
def decoder : Decoder ConfigMapKeyRef := .object "ConfigMapKeySelector" { name := "", key := "" }
  [.orDefault "key" .text "" fun v r => { r with key := v },
   .orDefault "name" .text "" fun v r => { r with name := v }]

/-- Writes a reference to a config map key. -/
def toJson (r : ConfigMapKeyRef) : Json := .record
  [("key", some (.str r.key)), ("name", some (.str r.name))]

end ConfigMapKeyRef

namespace EnvSource

/-- Reads the path of a reference to a Pod field. -/
def fieldDecoder : Decoder String := .object "ObjectFieldSelector" ""
  [.orDefault "fieldPath" .text "" fun v _ => v]

/-- Reads the source of a variable. -/
def decoder : Decoder EnvSource := .object "EnvVarSource" {}
  [.optional "configMapKeyRef" ConfigMapKeyRef.decoder fun v s => { s with configMapKey := v },
   .optional "fieldRef" fieldDecoder fun v s => { s with fieldPath := v },
   .optional "secretKeyRef" SecretKeyRef.decoder fun v s => { s with secretKey := v }]

/-- Writes the source of a variable. -/
def toJson (s : EnvSource) : Json := .record
  [("configMapKeyRef", s.configMapKey.map ConfigMapKeyRef.toJson),
   ("fieldRef", s.fieldPath.map fun path => .record [("fieldPath", some (.str path))]),
   ("secretKeyRef", s.secretKey.map SecretKeyRef.toJson)]

end EnvSource

namespace EnvVar

/-- Reads a variable. -/
def decoder : Decoder EnvVar := .object "EnvVar" { name := "" }
  [.orDefault "name" .text "" fun v e => { e with name := v },
   .optional "value" .text fun v e => { e with value := v },
   .optional "valueFrom" EnvSource.decoder fun v e => { e with source := v }]

/-- Writes a variable. -/
def toJson (e : EnvVar) : Json := .record
  [("name", some (.str e.name)), ("value", e.value.map .str),
   ("valueFrom", e.source.map EnvSource.toJson)]

end EnvVar

end InjectionWebhook
