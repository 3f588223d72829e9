/-
# The install container

One init container runs the install script before the application containers start.  Its environment
tells the script which capabilities to set up and which containers to write agent configuration for:
`CONTAINERS_COUNT`, and for a container at position `i` the entry `CONTAINER_i_NAME`,
`CONTAINER_i_IMAGE`.

* `InstallContainer.build` makes it for a fresh injection, without entries;
* `InstallContainer.addEntry` adds the entry of one container;
* `InstallContainer.sync` writes all entries anew for the containers as they are now;
* `InstallContainer.workload?` reads the workload back.
-/
import InjectionWebhook.Injection.Attachment
import InjectionWebhook.InstallSettings
import InjectionWebhook.Kubernetes.Pod

namespace InjectionWebhook
namespace InstallContainer

/-! ## 1. Names -/

/-- The name of the install container. -/
def name : String := "install-beacon"

/-- Variable with the number of application containers. -/
def countEnv : String := "CONTAINERS_COUNT"

/-- Variable that says whether the agent is set up. -/
def agentFlagEnv : String := "ONEAGENT_INJECTED"

/-- Variable that says whether enrichment is set up. -/
def enrichmentFlagEnv : String := "DATA_INGEST_INJECTED"

/-- Variable with the name of the container at a position. -/
def entryNameEnv (position : Nat) : String := "CONTAINER_" ++ toString position ++ "_NAME"

/-- Variable with the image of the container at a position. -/
def entryImageEnv (position : Nat) : String := "CONTAINER_" ++ toString position ++ "_IMAGE"

/-- The name of a Pod without what tells it from its siblings: the name prefix up to its last dash,
or the name where there is no prefix. -/
def baseName (m : ObjectMeta) : String :=
  match nonEmpty? m.generateName with
  | some generated =>
    let cs := generated.toList
    if '-' ∈ cs then String.ofList ((cs.reverse.dropWhile (· ≠ '-')).drop 1).reverse else generated
  | none => m.nameOrEmpty

/-! ## 2. Building -/

/-- The variables that describe the Pod. -/
def podVars (pod : Pod) (settings : InstallSettings) : List EnvVar :=
  [ .plain countEnv (toString pod.containers.length),
    .plain "FAILURE_POLICY" settings.failurePolicy,
    .ofField "K8S_PODNAME" "metadata.name",
    .ofField "K8S_PODUID" "metadata.uid",
    .plain "K8S_BASEPODNAME" (baseName pod.metadata),
    .ofField "K8S_NAMESPACE" "metadata.namespace",
    .ofField "K8S_NODE_NAME" "spec.nodeName" ]

/-- The variables that tell the script about the agent. -/
def agentVars (settings : InstallSettings) (config : WorkloadConfig) (on : Bool) : List EnvVar :=
  if on then
    [ .plain "FLAVOR" "multidistro",
      .plain "TECHNOLOGIES" settings.technologies,
      .plain "INSTALLPATH" settings.installPath,
      .plain "INSTALLER_URL" settings.installerUrl,
      .plain "MODE" config.installMode.word,
      .plain agentFlagEnv "true" ]
  else [.plain agentFlagEnv "false"]

/-- The variables that tell the script about enrichment. -/
def enrichmentVars : Option Workload → List EnvVar
  | some workload =>
    [ .plain workloadKindEnv workload.kind, .plain workloadNameEnv workload.name,
      .plain enrichmentFlagEnv "true" ]
  | none => [.plain enrichmentFlagEnv "false"]

/-- The mounts of the install container. -/
def mounts (agent enrichment : Bool) : List VolumeMount :=
  [{ name := Volume.configName, mountPath := "/mnt/config" }] ++
  (if agent then
    [ { name := Volume.binariesName, mountPath := "/mnt/bin" },
      { name := Volume.shareName, mountPath := "/mnt/share" } ]
  else []) ++
  (if enrichment then [{ name := Volume.enrichmentName, mountPath := "/mnt/enrichment" }] else [])

/-- The install container of a fresh injection, without entries.  Enrichment is set up where it is
on and the workload is known; the security context is that of the first application container. -/
def build (pod : Pod) (settings : InstallSettings) (config : WorkloadConfig) (features : Features)
    (workload : Option Workload) : Container :=
  let workload := workload.filter fun _ => features.dataIngest
  { name
    image := some settings.image
    imagePullPolicy := some "IfNotPresent"
    command := some ["/usr/bin/env"]
    args := some ["bash", "/mnt/config/init.sh"]
    env := some (podVars pod settings ++ agentVars settings config features.oneAgent ++
      enrichmentVars workload)
    volumeMounts := some (mounts features.oneAgent workload.isSome)
    securityContext := pod.containers.head?.bind (·.securityContext)
    resources := config.initResources? }

/-! ## 3. Entries -/

/-- The entry of a container at a position. -/
def entry (position : Nat) (c : Container) : List EnvVar :=
  [.plain (entryNameEnv position) c.name, .plain (entryImageEnv position) (c.image.getD "")]

/-- Adds the entry of a container at a position. -/
def addEntry (install : Container) (position : Nat) (c : Container) : Container :=
  install.appendEnv (entry position c)

/-- The entries of the containers from a position on that carry the agent. -/
def entriesFrom (position : Nat) : List Container → List EnvVar
  | [] => []
  | c :: rest => (if c.hasAgent then entry position c else []) ++ entriesFrom (position + 1) rest

/-- A name is a non-empty run of digits between `CONTAINER_` and `_NAME` or `_IMAGE`. -/
def isEntryName (name : String) : Bool :=
  match stripFront "CONTAINER_".toList name.toList with
  | none => false
  | some rest =>
    match stripBack "_NAME".toList rest <|> stripBack "_IMAGE".toList rest with
    | none => false
    | some digits => !digits.isEmpty && digits.all Char.isDigit
where
  /-- What follows the given characters at the front. -/
  stripFront : List Char → List Char → Option (List Char)
    | [], cs => some cs
    | x :: xs, c :: cs => if x = c then stripFront xs cs else none
    | _ :: _, [] => none
  /-- What stands before the given characters at the end. -/
  stripBack (ending cs : List Char) : Option (List Char) :=
    (stripFront ending.reverse cs.reverse).map List.reverse

/-- Sets the value of the first variable with a name; adds one where there is none. -/
def setVar (name value : String) : List EnvVar → List EnvVar
  | [] => [.plain name value]
  | e :: rest =>
    if e.name = name then { e with value := some value } :: rest else e :: setVar name value rest

/-- Sets the number of application containers. -/
def setCount (install : Container) (count : Nat) : Container :=
  { install with env := some (setVar countEnv (toString count) install.envVars) }

/-- Writes the entries and the count anew for the containers as they are now: every container that
carries the agent gets an entry at its position. -/
def sync (install : Container) (containers : List Container) : Container :=
  let others := install.envVars.filter fun e => !isEntryName e.name
  setCount { install with env := some (others ++ entriesFrom 1 containers) } containers.length

/-- Writing the entries anew makes a difference. -/
def isStale (install : Container) (containers : List Container) : Bool :=
  decide ((sync install containers).env ≠ install.env)

/-! ## 4. Reading back -/

/-- The first init container with the name of the install container. -/
def find? (pod : Pod) : Option Container :=
  (pod.spec.bind (·.initContainers)).bind fun cs => cs.find? (·.name = name)

/-- The text value of the first variable with a name, empty where it has none. -/
def valueOf (install : Container) (name : String) : String :=
  ((install.findEnv? name).bind (·.value)).getD ""

/-- The workload recorded in an install container: known when the workload name is. -/
def workload? (install : Container) : Option Workload :=
  if install.hasEnv workloadNameEnv then
    some { kind := valueOf install workloadKindEnv, name := valueOf install workloadNameEnv }
  else none

end InstallContainer

end InjectionWebhook
