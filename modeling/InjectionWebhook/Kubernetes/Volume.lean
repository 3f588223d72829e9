/-
# Volumes

A volume of a Pod and the sources it can have.  A document may name several sources for one volume;
all of them are kept.
-/
import InjectionWebhook.Json.Record

namespace InjectionWebhook

/-- A directory that lives as long as the Pod. -/
structure EmptyDirSource where
deriving DecidableEq

/-- The files of a secret. -/
structure SecretSource where
  secretName : Option String := none
deriving DecidableEq

/-- The files of a config map. -/
structure ConfigMapSource where
  name : String
deriving DecidableEq

/-- Storage published by a driver on the node. -/
structure DriverSource where
  driver : String
  attributes : Option (Dict String) := none
deriving DecidableEq

/-- A volume of a Pod. -/
structure Volume where
  name : String
  configMap : Option ConfigMapSource := none
  csi : Option DriverSource := none
  emptyDir : Option EmptyDirSource := none
  secret : Option SecretSource := none
deriving DecidableEq

namespace Volume

/-- A volume that is an empty directory. -/
def scratch (name : String) : Volume := { name, emptyDir := some {} }

/-- A volume with the files of a secret. -/
def ofSecret (name secretName : String) : Volume :=
  { name, secret := some { secretName := some secretName } }

/-- Reads an empty directory source. -/
def emptyDirDecoder : Decoder EmptyDirSource := .object "EmptyDirVolumeSource" {} []

/-- Reads a secret source. -/
def secretDecoder : Decoder SecretSource := .object "SecretVolumeSource" {}
  [.optional "secretName" .text fun v s => { s with secretName := v }]

/-- Reads a config map source. -/
def configMapDecoder : Decoder ConfigMapSource := .object "ConfigMapVolumeSource" { name := "" }
  [.orDefault "name" .text "" fun v s => { s with name := v }]

/-- Reads a driver source. -/
def csiDecoder : Decoder DriverSource := .object "CSIVolumeSource" { driver := "" }
  [.orDefault "driver" .text "" fun v s => { s with driver := v },
   .optional "volumeAttributes" (.dict .text) fun v s => { s with attributes := v }]

/-- Reads a volume. -/
def decoder : Decoder Volume := .object "Volume" { name := "" }
  [.optional "configMap" configMapDecoder fun x v => { v with configMap := x },
   .optional "csi" csiDecoder fun x v => { v with csi := x },
   .optional "emptyDir" emptyDirDecoder fun x v => { v with emptyDir := x },
   .orDefault "name" .text "" fun x v => { v with name := x },
   .optional "secret" secretDecoder fun x v => { v with secret := x }]

/-- Writes a volume. -/
def toJson (v : Volume) : Json := .record
  [("configMap", v.configMap.map fun s => .record [("name", some (.str s.name))]),
   ("csi", v.csi.map fun s => .record
     [("driver", some (.str s.driver)), ("volumeAttributes", s.attributes.map (.ofDict .str))]),
   ("emptyDir", v.emptyDir.map fun _ => .record []),
   ("name", some (.str v.name)),
   ("secret", v.secret.map fun s => .record [("secretName", s.secretName.map .str)])]

end Volume

end InjectionWebhook
