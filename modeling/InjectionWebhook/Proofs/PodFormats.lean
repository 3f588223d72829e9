/-
# The format of a Pod

Every part of a Pod is read and written by one format, put together from the formats of its parts.
The formats are no new decoders and encoders: those of the Pod itself are the ones of `Pod.record`
(`Pod.decoder_eq`, `Pod.toJson_eq`).

Not every Pod can be read back: numbers may be out of range.  They are the only values for which this
is a question (`Pod.fits_iff`, `Container.fits_iff`).
-/
import InjectionWebhook.Kubernetes.Pod
import InjectionWebhook.Proofs.RecordFormats

namespace InjectionWebhook

/-! ## 1. Scalars -/

namespace Format

/-- Texts. -/
def text : Format String := .scalar .text .str (fun _ => True)
  { encode_isScalar := fun _ => rfl
    isScalar_of_read := by
      intro j a h
      cases j with
      | str s => rfl
      | _ => exact absurd h (by simp [Decoder.ofJson, Json.Written.ofJson, Decoder.text])
    refuses_null := fun _ h => nomatch h
    fits_of_read := fun _ => trivial
    read_encode := fun _ => rfl }

/-- Truth values. -/
def flag : Format Bool := .scalar .flag .bool (fun _ => True)
  { encode_isScalar := fun _ => rfl
    isScalar_of_read := by
      intro j a h
      cases j with
      | bool b => rfl
      | _ => exact absurd h (by simp [Decoder.ofJson, Json.Written.ofJson, Decoder.flag])
    refuses_null := fun _ h => nomatch h
    fits_of_read := fun _ => trivial
    read_encode := fun _ => rfl }

/-- Integers in a range. -/
def integer (low high : Int) (name : String) : Format Int :=
  .scalar (.integer low high name) .int (fun n => low ≤ n ∧ n ≤ high)
  { encode_isScalar := fun _ => rfl
    isScalar_of_read := by
      intro j a h
      cases j with
      | int n => rfl
      | _ => exact absurd h (by simp [Decoder.ofJson, Json.Written.ofJson, Decoder.integer])
    refuses_null := fun _ h => nomatch h
    fits_of_read := by
      intro j a h
      cases j with
      | int n =>
        change (if low ≤ n ∧ n ≤ high then Except.ok n else Except.error _) = .ok a at h
        by_cases hn : low ≤ n ∧ n ≤ high
        · rw [if_pos hn] at h
          exact Except.ok.inj h ▸ hn
        · rw [if_neg hn] at h
          exact nomatch h
      | _ => exact absurd h (by simp [Decoder.ofJson, Json.Written.ofJson, Decoder.integer])
    read_encode := fun h => if_pos h }

/-- Quantities.  They are written as texts, but a document may hold an integer. -/
def quantity : Format String :=
  .scalar Resources.quantityDecoder .str (fun _ => True)
  { encode_isScalar := fun _ => rfl
    isScalar_of_read := by
      intro j a h
      cases j with
      | str s => rfl
      | int n => rfl
      | _ => exact absurd h (by simp [Decoder.ofJson, Json.Written.ofJson, Resources.quantityDecoder])
    refuses_null := fun _ h => nomatch h
    fits_of_read := fun _ => trivial
    read_encode := fun _ => rfl }

end Format

/-! ## 2. Parts of a container -/

/-- Volume mounts. -/
def VolumeMount.record : Record VolumeMount where
  name := "VolumeMount"
  start := { name := "", mountPath := "" }
  slots :=
    [.orDefault "mountPath" .text "" (·.mountPath) fun v m => { m with mountPath := v },
     .orDefault "name" .text "" (·.name) fun v m => { m with name := v },
     .optional "readOnly" .flag (·.readOnly) fun v m => { m with readOnly := v },
     .optional "subPath" .text (·.subPath) fun v m => { m with subPath := v }]

/-- Keys of a secret. -/
def SecretKeyRef.record : Record SecretKeyRef where
  name := "SecretKeySelector"
  start := { name := "", key := "" }
  slots :=
    [.orDefault "key" .text "" (·.key) fun v r => { r with key := v },
     .orDefault "name" .text "" (·.name) fun v r => { r with name := v },
     .optional "optional" .flag (·.optional) fun v r => { r with optional := v }]

/-- Keys of a config map. -/
def ConfigMapKeyRef.record : Record ConfigMapKeyRef where
  name := "ConfigMapKeySelector"
  start := { name := "", key := "" }
  slots :=
    [.orDefault "key" .text "" (·.key) fun v r => { r with key := v },
     .orDefault "name" .text "" (·.name) fun v r => { r with name := v }]

/-- Records with one part that is always there, and is all there is. -/
def Record.wrapper (name key : String) : Record String where
  name
  start := ""
  slots := [.orDefault key .text "" id fun v _ => v]
  ascending := by simp
  ext _ _ h := by simpa [Slot.orDefault] using h

/-- Sources of a variable. -/
def EnvSource.record : Record EnvSource where
  name := "EnvVarSource"
  start := {}
  slots :=
    [.optional "configMapKeyRef" ConfigMapKeyRef.record.format (·.configMapKey) fun v s =>
       { s with configMapKey := v },
     .optional "fieldRef" (Record.wrapper "ObjectFieldSelector" "fieldPath").format (·.fieldPath)
       fun v s => { s with fieldPath := v },
     .optional "secretKeyRef" SecretKeyRef.record.format (·.secretKey) fun v s =>
       { s with secretKey := v }]

/-- Variables. -/
def EnvVar.record : Record EnvVar where
  name := "EnvVar"
  start := { name := "" }
  slots :=
    [.orDefault "name" .text "" (·.name) fun v e => { e with name := v },
     .optional "value" .text (·.value) fun v e => { e with value := v },
     .optional "valueFrom" EnvSource.record.format (·.source) fun v e => { e with source := v }]

/-- Kernel capabilities. -/
def KernelCapabilities.record : Record KernelCapabilities where
  name := "Capabilities"
  start := {}
  slots :=
    [.optional "add" (.list .text) (·.add) fun v c => { c with add := v },
     .optional "drop" (.list .text) (·.drop) fun v c => { c with drop := v }]

/-- Signed 64-bit integers. -/
def Format.int64 : Format Int := .integer Int64.minValue.toInt Int64.maxValue.toInt "i64"

/-- Security contexts. -/
def SecurityContext.record : Record SecurityContext where
  name := "SecurityContext"
  start := {}
  slots :=
    [.optional "allowPrivilegeEscalation" .flag (·.allowPrivilegeEscalation) fun v s =>
       { s with allowPrivilegeEscalation := v },
     .optional "capabilities" KernelCapabilities.record.format (·.capabilities) fun v s =>
       { s with capabilities := v },
     .optional "privileged" .flag (·.privileged) fun v s => { s with privileged := v },
     .optional "readOnlyRootFilesystem" .flag (·.readOnlyRootFilesystem) fun v s =>
       { s with readOnlyRootFilesystem := v },
     .optional "runAsGroup" .int64 (·.runAsGroup) fun v s => { s with runAsGroup := v },
     .optional "runAsNonRoot" .flag (·.runAsNonRoot) fun v s => { s with runAsNonRoot := v },
     .optional "runAsUser" .int64 (·.runAsUser) fun v s => { s with runAsUser := v },
     .optional "seccompProfile" (Record.wrapper "SeccompProfile" "type").format (·.seccompType)
       fun v s => { s with seccompType := v }]

/-- Resource requirements. -/
def Resources.record : Record Resources where
  name := "ResourceRequirements"
  start := {}
  slots :=
    [.optional "limits" (.dict .quantity) (·.limits) fun v r => { r with limits := v },
     .optional "requests" (.dict .quantity) (·.requests) fun v r => { r with requests := v }]

/-- Ports. -/
def ContainerPort.record : Record ContainerPort where
  name := "ContainerPort"
  start := { containerPort := 0 }
  slots :=
    [.orDefault "containerPort" (.integer Int32.minValue.toInt Int32.maxValue.toInt "i32") 0
       (·.containerPort) (fun v p => { p with containerPort := v }) (fun _ _ => rfl)
       ⟨by decide, by decide⟩,
     .optional "name" .text (·.name) fun v p => { p with name := v },
     .optional "protocol" .text (·.protocol) fun v p => { p with protocol := v }]

/-- Containers. -/
def Container.record : Record Container where
  name := "Container"
  start := { name := "" }
  slots :=
    [.optional "args" (.list .text) (·.args) fun v c => { c with args := v },
     .optional "command" (.list .text) (·.command) fun v c => { c with command := v },
     .optional "env" (.list EnvVar.record.format) (·.env) fun v c => { c with env := v },
     .optional "image" .text (·.image) fun v c => { c with image := v },
     .optional "imagePullPolicy" .text (·.imagePullPolicy) fun v c =>
       { c with imagePullPolicy := v },
     .orDefault "name" .text "" (·.name) fun v c => { c with name := v },
     .optional "ports" (.list ContainerPort.record.format) (·.ports) fun v c =>
       { c with ports := v },
     .optional "resources" Resources.record.format (·.resources) fun v c =>
       { c with resources := v },
     .optional "securityContext" SecurityContext.record.format (·.securityContext) fun v c =>
       { c with securityContext := v },
     .optional "volumeMounts" (.list VolumeMount.record.format) (·.volumeMounts) fun v c =>
       { c with volumeMounts := v },
     .optional "workingDir" .text (·.workingDir) fun v c => { c with workingDir := v }]

/-! ## 3. Volumes -/

/-- Empty directories. -/
def EmptyDirSource.record : Record EmptyDirSource where
  name := "EmptyDirVolumeSource"
  start := {}
  slots := []

/-- Secret sources. -/
def SecretSource.record : Record SecretSource where
  name := "SecretVolumeSource"
  start := {}
  slots := [.optional "secretName" .text (·.secretName) fun v s => { s with secretName := v }]

/-- Config map sources. -/
def ConfigMapSource.record : Record ConfigMapSource where
  name := "ConfigMapVolumeSource"
  start := { name := "" }
  slots := [.orDefault "name" .text "" (·.name) fun v s => { s with name := v }]

/-- Driver sources. -/
def DriverSource.record : Record DriverSource where
  name := "CSIVolumeSource"
  start := { driver := "" }
  slots :=
    [.orDefault "driver" .text "" (·.driver) fun v s => { s with driver := v },
     .optional "volumeAttributes" (.dict .text) (·.attributes) fun v s => { s with attributes := v }]

/-- Volumes. -/
def Volume.record : Record Volume where
  name := "Volume"
  start := { name := "" }
  slots :=
    [.optional "configMap" ConfigMapSource.record.format (·.configMap) fun x v =>
       { v with configMap := x },
     .optional "csi" DriverSource.record.format (·.csi) fun x v => { v with csi := x },
     .optional "emptyDir" EmptyDirSource.record.format (·.emptyDir) fun x v =>
       { v with emptyDir := x },
     .orDefault "name" .text "" (·.name) fun x v => { v with name := x },
     .optional "secret" SecretSource.record.format (·.secret) fun x v => { v with secret := x }]

/-! ## 4. Metadata -/

/-- Owner references. -/
def OwnerReference.record : Record OwnerReference where
  name := "OwnerReference"
  start := { apiVersion := "", kind := "", name := "", uid := "" }
  slots :=
    [.orDefault "apiVersion" .text "" (·.apiVersion) fun v o => { o with apiVersion := v },
     .optional "blockOwnerDeletion" .flag (·.blockOwnerDeletion) fun v o =>
       { o with blockOwnerDeletion := v },
     .optional "controller" .flag (·.controller) fun v o => { o with controller := v },
     .orDefault "kind" .text "" (·.kind) fun v o => { o with kind := v },
     .orDefault "name" .text "" (·.name) fun v o => { o with name := v },
     .orDefault "uid" .text "" (·.uid) fun v o => { o with uid := v }]

/-- Metadata. -/
def ObjectMeta.record : Record ObjectMeta where
  name := "ObjectMeta"
  start := {}
  slots :=
    [.optional "annotations" (.dict .text) (·.annotations) fun v m => { m with annotations := v },
     .optional "finalizers" (.list .text) (·.finalizers) fun v m => { m with finalizers := v },
     .optional "generateName" .text (·.generateName) fun v m => { m with generateName := v },
     .optional "labels" (.dict .text) (·.labels) fun v m => { m with labels := v },
     .optional "name" .text (·.name) fun v m => { m with name := v },
     .optional "namespace" .text (·.namespace_) fun v m => { m with namespace_ := v },
     .optional "ownerReferences" (.list OwnerReference.record.format) (·.ownerReferences)
       fun v m => { m with ownerReferences := v },
     .optional "resourceVersion" .text (·.resourceVersion) fun v m =>
       { m with resourceVersion := v },
     .optional "uid" .text (·.uid) fun v m => { m with uid := v }]

/-! ## 5. Pods -/

/-- Specifications. -/
def PodSpec.record : Record PodSpec where
  name := "PodSpec"
  start := {}
  slots :=
    [.orDefault "containers" (.list Container.record.format) [] (·.containers)
       (fun v s => { s with containers := v }) (fun _ _ => rfl)
       (fun _ h => absurd h List.not_mem_nil),
     .optional "hostNetwork" .flag (·.hostNetwork) fun v s => { s with hostNetwork := v },
     .optional "initContainers" (.list Container.record.format) (·.initContainers) fun v s =>
       { s with initContainers := v },
     .optional "nodeName" .text (·.nodeName) fun v s => { s with nodeName := v },
     .optional "restartPolicy" .text (·.restartPolicy) fun v s => { s with restartPolicy := v },
     .optional "serviceAccountName" .text (·.serviceAccountName) fun v s =>
       { s with serviceAccountName := v },
     .optional "terminationGracePeriodSeconds" .int64 (·.terminationGracePeriodSeconds)
       fun v s => { s with terminationGracePeriodSeconds := v },
     .optional "volumes" (.list Volume.record.format) (·.volumes) fun v s => { s with volumes := v }]

/-- Statuses. -/
def PodStatus.record : Record PodStatus where
  name := "PodStatus"
  start := {}
  slots := [.optional "phase" .text (·.phase) fun v s => { s with phase := v }]

/-- The metadata of a Pod. -/
def Pod.metadataSlot : Slot Pod :=
  .orDefault "metadata" ObjectMeta.record.format {} (·.metadata)
    (fun v p => { p with metadata := v }) (fun _ _ => rfl) ObjectMeta.record.fits_start

/-- Pods. -/
def Pod.record : Record Pod where
  name := "Pod"
  start := {}
  constants := [("apiVersion", "v1"), ("kind", "Pod")]
  slots :=
    [Pod.metadataSlot,
     .optional "spec" PodSpec.record.format (·.spec) fun v p => { p with spec := v },
     .optional "status" PodStatus.record.format (·.status) fun v p => { p with status := v }]
  apart := by simp [Slot.Apart, Slot.optional, Slot.orDefault, Pod.metadataSlot]
  get_start := by simp [Slot.optional, Slot.orDefault, Pod.metadataSlot]
  ext := by
    rintro ⟨⟩ ⟨⟩ h
    simp_all [Slot.optional, Slot.orDefault, Pod.metadataSlot]

theorem Container.toJson_eq : Container.toJson = Container.record.encode := rfl

theorem ObjectMeta.toJson_eq : ObjectMeta.toJson = ObjectMeta.record.encode := rfl

theorem PodSpec.toJson_eq : PodSpec.toJson = PodSpec.record.encode := rfl

theorem Pod.decoder_eq : Pod.decoder = Pod.record.decoder := rfl

theorem Pod.toJson_eq : Pod.toJson = Pod.record.encode := rfl

/-! ## 6. What can be read back -/

/-- Texts always can. -/
@[simp] theorem Format.fits_text (s : String) : Format.text.fits s := trivial

@[simp] theorem Format.fits_flag (b : Bool) : Format.flag.fits b := trivial

@[simp] theorem Format.fits_quantity (s : String) : Format.quantity.fits s := trivial

@[simp] theorem Format.fits_list {α : Type} (f : Format α) (xs : List α) :
    f.list.fits xs ↔ ∀ x ∈ xs, f.fits x := Iff.rfl

@[simp] theorem Format.fits_dict {α : Type} (f : Format α) (d : Dict α) :
    f.dict.fits d ↔ ∀ k x, d.get? k = some x → f.fits x := Iff.rfl

@[simp] theorem Record.fits_format {σ : Type} (r : Record σ) (s : σ) :
    r.format.fits s ↔ r.Fits s := Iff.rfl

@[simp] theorem Record.fits_wrapper (name key s : String) : (Record.wrapper name key).Fits s := by
  rw [Record.Fits]
  simp [Record.wrapper, Slot.orDefault]

@[simp] theorem SecretKeyRef.fits (r : SecretKeyRef) : SecretKeyRef.record.Fits r := by
  rw [Record.Fits]
  simp [SecretKeyRef.record, Slot.orDefault, Slot.optional]

@[simp] theorem ConfigMapKeyRef.fits (r : ConfigMapKeyRef) : ConfigMapKeyRef.record.Fits r := by
  rw [Record.Fits]
  simp [ConfigMapKeyRef.record, Slot.orDefault]

@[simp] theorem EnvSource.fits (s : EnvSource) : EnvSource.record.Fits s := by
  rw [Record.Fits]
  simp [EnvSource.record, Slot.optional]

@[simp] theorem EnvVar.fits (e : EnvVar) : EnvVar.record.Fits e := by
  rw [Record.Fits]
  simp [EnvVar.record, Slot.orDefault, Slot.optional]

@[simp] theorem VolumeMount.fits (m : VolumeMount) : VolumeMount.record.Fits m := by
  rw [Record.Fits]
  simp [VolumeMount.record, Slot.orDefault, Slot.optional]

@[simp] theorem Resources.fits (r : Resources) : Resources.record.Fits r := by
  rw [Record.Fits]
  simp [Resources.record, Slot.optional]

/-- A container can be read back if its numbers are in range. -/
theorem Container.fits_iff (c : Container) : Container.record.Fits c ↔
    (∀ ports, c.ports = some ports → ∀ p ∈ ports, ContainerPort.record.Fits p) ∧
      ∀ context, c.securityContext = some context → SecurityContext.record.Fits context := by
  rw [Record.Fits]
  simp [Container.record, Slot.orDefault, Slot.optional]

@[simp] theorem ConfigMapSource.fits (s : ConfigMapSource) : ConfigMapSource.record.Fits s := by
  rw [Record.Fits]
  simp [ConfigMapSource.record, Slot.orDefault]

@[simp] theorem DriverSource.fits (s : DriverSource) : DriverSource.record.Fits s := by
  rw [Record.Fits]
  simp [DriverSource.record, Slot.orDefault, Slot.optional]

@[simp] theorem EmptyDirSource.fits (s : EmptyDirSource) : EmptyDirSource.record.Fits s := by
  rw [Record.Fits]
  simp [EmptyDirSource.record]

@[simp] theorem SecretSource.fits (s : SecretSource) : SecretSource.record.Fits s := by
  rw [Record.Fits]
  simp [SecretSource.record, Slot.optional]

@[simp] theorem Volume.fits (v : Volume) : Volume.record.Fits v := by
  rw [Record.Fits]
  simp [Volume.record, Slot.orDefault, Slot.optional]

@[simp] theorem OwnerReference.fits (o : OwnerReference) : OwnerReference.record.Fits o := by
  rw [Record.Fits]
  simp [OwnerReference.record, Slot.orDefault, Slot.optional]

@[simp] theorem ObjectMeta.fits (m : ObjectMeta) : ObjectMeta.record.Fits m := by
  rw [Record.Fits]
  simp [ObjectMeta.record, Slot.optional]

@[simp] theorem PodStatus.fits (s : PodStatus) : PodStatus.record.Fits s := by
  rw [Record.Fits]
  simp [PodStatus.record, Slot.optional]

/-- A specification can be read back if its containers can and its number is in range. -/
theorem PodSpec.fits_iff (s : PodSpec) : PodSpec.record.Fits s ↔
    (∀ c ∈ s.containers, Container.record.Fits c) ∧
      (∀ cs, s.initContainers = some cs → ∀ c ∈ cs, Container.record.Fits c) ∧
      ∀ n, s.terminationGracePeriodSeconds = some n → Format.int64.fits n := by
  rw [Record.Fits]
  simp [PodSpec.record, Slot.orDefault, Slot.optional]

/-- A Pod can be read back if its specification can. -/
theorem Pod.fits_iff (p : Pod) : Pod.record.Fits p ↔
    ∀ spec, p.spec = some spec → PodSpec.record.Fits spec := by
  rw [Record.Fits]
  simp [Pod.record, Pod.metadataSlot, Slot.orDefault, Slot.optional]

end InjectionWebhook
