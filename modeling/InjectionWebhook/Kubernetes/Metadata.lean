/-
# Object metadata

The metadata every cluster object carries: its names, its labels and annotations, and the references
to the objects that own it.  Members that are not listed here are dropped on reading.
-/
import InjectionWebhook.Json.Record

namespace InjectionWebhook

/-- A reference from an object to one that owns it. -/
structure OwnerReference where
  apiVersion : String
  kind : String
  name : String
  uid : String
  controller : Option Bool := none
  blockOwnerDeletion : Option Bool := none
deriving DecidableEq

/-- The metadata of an object. -/
structure ObjectMeta where
  name : Option String := none
  generateName : Option String := none
  namespace_ : Option String := none
  uid : Option String := none
  resourceVersion : Option String := none
  labels : Option (Dict String) := none
  annotations : Option (Dict String) := none
  finalizers : Option (List String) := none
  ownerReferences : Option (List OwnerReference) := none
deriving DecidableEq

instance : Inhabited ObjectMeta := ⟨{}⟩

/-- The label or annotation map, empty where there is none. -/
def ObjectMeta.annotationMap (m : ObjectMeta) : Dict String := m.annotations.getD .empty

/-- The name, empty where there is none. -/
def ObjectMeta.nameOrEmpty (m : ObjectMeta) : String := m.name.getD ""

namespace OwnerReference

/-- The fields of an owner reference. -/
def fields : List (Field OwnerReference) :=
  [.orDefault "apiVersion" .text "" fun v o => { o with apiVersion := v },
   .optional "blockOwnerDeletion" .flag fun v o => { o with blockOwnerDeletion := v },
   .optional "controller" .flag fun v o => { o with controller := v },
   .orDefault "kind" .text "" fun v o => { o with kind := v },
   .orDefault "name" .text "" fun v o => { o with name := v },
   .orDefault "uid" .text "" fun v o => { o with uid := v }]

/-- Reads an owner reference. -/
def decoder : Decoder OwnerReference :=
  .object "OwnerReference" { apiVersion := "", kind := "", name := "", uid := "" } fields

/-- Writes an owner reference. -/
def toJson (o : OwnerReference) : Json := .record
  [("apiVersion", some (.str o.apiVersion)), ("blockOwnerDeletion", o.blockOwnerDeletion.map .bool),
   ("controller", o.controller.map .bool), ("kind", some (.str o.kind)),
   ("name", some (.str o.name)), ("uid", some (.str o.uid))]

end OwnerReference

namespace ObjectMeta

/-- The fields of the metadata of an object. -/
def fields : List (Field ObjectMeta) :=
  [.optional "annotations" (.dict .text) fun v m => { m with annotations := v },
   .optional "finalizers" (.list .text) fun v m => { m with finalizers := v },
   .optional "generateName" .text fun v m => { m with generateName := v },
   .optional "labels" (.dict .text) fun v m => { m with labels := v },
   .optional "name" .text fun v m => { m with name := v },
   .optional "namespace" .text fun v m => { m with namespace_ := v },
   .optional "ownerReferences" (.list OwnerReference.decoder) fun v m =>
     { m with ownerReferences := v },
   .optional "resourceVersion" .text fun v m => { m with resourceVersion := v },
   .optional "uid" .text fun v m => { m with uid := v }]

/-- Reads the metadata of an object. -/
def decoder : Decoder ObjectMeta := .object "ObjectMeta" {} fields

/-- Writes the metadata of an object. -/
def toJson (m : ObjectMeta) : Json := .record
  [("annotations", m.annotations.map (.ofDict .str)),
   ("finalizers", m.finalizers.map (.ofList .str)),
   ("generateName", m.generateName.map .str), ("labels", m.labels.map (.ofDict .str)),
   ("name", m.name.map .str), ("namespace", m.namespace_.map .str),
   ("ownerReferences", m.ownerReferences.map (.ofList OwnerReference.toJson)),
   ("resourceVersion", m.resourceVersion.map .str), ("uid", m.uid.map .str)]

end ObjectMeta

end InjectionWebhook
