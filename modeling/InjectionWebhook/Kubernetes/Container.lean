/-
# Containers

A container of a Pod.  Its variables and volume mounts are lists in which order counts; they grow at
the end (`Container.appendEnv`, `Container.appendMounts`), and of two variables with one name the
first is found (`Container.findEnv?`).
-/
import InjectionWebhook.Kubernetes.Env
import InjectionWebhook.Kubernetes.Requirements

namespace InjectionWebhook

/-! ## 1. Volume mounts -/

/-- A volume, or a part of it, made visible inside a container. -/
structure VolumeMount where
  /-- Name of the volume. -/
  name : String
  mountPath : String
  subPath : Option String := none
  readOnly : Option Bool := none
deriving DecidableEq

namespace VolumeMount

/-- Reads a volume mount. -/
def decoder : Decoder VolumeMount := .object "VolumeMount" { name := "", mountPath := "" }
  [.orDefault "mountPath" .text "" fun v m => { m with mountPath := v },
   .orDefault "name" .text "" fun v m => { m with name := v },
   .optional "readOnly" .flag fun v m => { m with readOnly := v },
   .optional "subPath" .text fun v m => { m with subPath := v }]

/-- Writes a volume mount. -/
def toJson (m : VolumeMount) : Json := .record
  [("mountPath", some (.str m.mountPath)), ("name", some (.str m.name)),
   ("readOnly", m.readOnly.map .bool), ("subPath", m.subPath.map .str)]

end VolumeMount

/-! ## 2. Containers -/

/-- A container of a Pod. -/
structure Container where
  name : String
  image : Option String := none
  imagePullPolicy : Option String := none
  workingDir : Option String := none
  command : Option (List String) := none
  args : Option (List String) := none
  env : Option (List EnvVar) := none
  volumeMounts : Option (List VolumeMount) := none
  securityContext : Option SecurityContext := none
  resources : Option Resources := none
  ports : Option (List ContainerPort) := none
deriving DecidableEq

namespace Container

/-- The variables of a container, in order. -/
def envVars (c : Container) : List EnvVar := c.env.getD []

/-- The volume mounts of a container, in order. -/
def mounts (c : Container) : List VolumeMount := c.volumeMounts.getD []

/-- The first variable with a name. -/
def findEnv? (c : Container) (name : String) : Option EnvVar :=
  c.envVars.find? (·.name = name)

/-- The container has a variable with the name. -/
def hasEnv (c : Container) (name : String) : Bool := (c.findEnv? name).isSome

theorem hasEnv_eq_any (c : Container) (name : String) :
    c.hasEnv name = c.envVars.any (fun e => decide (e.name = name)) := by
  rw [hasEnv, findEnv?, List.isSome_find?]

/-- Adds variables behind those already there. -/
def appendEnv (c : Container) (vars : List EnvVar) : Container :=
  { c with env := some (c.envVars ++ vars) }

/-- Adds volume mounts behind those already there. -/
def appendMounts (c : Container) (more : List VolumeMount) : Container :=
  { c with volumeMounts := some (c.mounts ++ more) }

@[simp] theorem envVars_appendEnv (c : Container) (vars : List EnvVar) :
    (c.appendEnv vars).envVars = c.envVars ++ vars := rfl

@[simp] theorem mounts_appendEnv (c : Container) (vars : List EnvVar) :
    (c.appendEnv vars).mounts = c.mounts := rfl

@[simp] theorem envVars_appendMounts (c : Container) (more : List VolumeMount) :
    (c.appendMounts more).envVars = c.envVars := rfl

@[simp] theorem mounts_appendMounts (c : Container) (more : List VolumeMount) :
    (c.appendMounts more).mounts = c.mounts ++ more := rfl

/-- The fields of a container. -/
def fields : List (Field Container) :=
  [.optional "args" (.list .text) fun v c => { c with args := v },
   .optional "command" (.list .text) fun v c => { c with command := v },
   .optional "env" (.list EnvVar.decoder) fun v c => { c with env := v },
   .optional "image" .text fun v c => { c with image := v },
   .optional "imagePullPolicy" .text fun v c => { c with imagePullPolicy := v },
   .orDefault "name" .text "" fun v c => { c with name := v },
   .optional "ports" (.list ContainerPort.decoder) fun v c => { c with ports := v },
   .optional "resources" Resources.decoder fun v c => { c with resources := v },
   .optional "securityContext" SecurityContext.decoder fun v c => { c with securityContext := v },
   .optional "volumeMounts" (.list VolumeMount.decoder) fun v c => { c with volumeMounts := v },
   .optional "workingDir" .text fun v c => { c with workingDir := v }]

/-- Reads a container. -/
def decoder : Decoder Container := .object "Container" { name := "" } fields

/-- Writes a container. -/
def toJson (c : Container) : Json := .record
  [("args", c.args.map (.ofList .str)), ("command", c.command.map (.ofList .str)),
   ("env", c.env.map (.ofList EnvVar.toJson)), ("image", c.image.map .str),
   ("imagePullPolicy", c.imagePullPolicy.map .str), ("name", some (.str c.name)),
   ("ports", c.ports.map (.ofList ContainerPort.toJson)),
   ("resources", c.resources.map Resources.toJson),
   ("securityContext", c.securityContext.map SecurityContext.toJson),
   ("volumeMounts", c.volumeMounts.map (.ofList VolumeMount.toJson)),
   ("workingDir", c.workingDir.map .str)]

end Container

end InjectionWebhook
