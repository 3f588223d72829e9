/-
# Repairing an injected Pod

Admission can run again after somebody else has changed the containers of an injected Pod.  A repair
gives every container what it lacks and brings the entries of the install container up to date; a
container that lacks nothing is left alone.

The workload is read back from the install container.  Without an install container no container is
given the agent, since nothing would set it up.
-/
import InjectionWebhook.Injection.Inject

namespace InjectionWebhook

/-- Replaces the first element with a property. -/
def replaceFirst (p : α → Bool) (f : α → α) : List α → List α
  | [] => []
  | a :: rest => if p a then f a :: rest else a :: replaceFirst p f rest

namespace Injection

/-- What a container lacks of an attachment; `installed` tells whether the Pod has an install
container. -/
def lacking (a : Attachment) (installed : Bool) (c : Container) : Attachment :=
  a.only (!c.hasAgent && installed) (!c.hasEnrichment)

/-- The injection as a repair sees it: the workload is the recorded one. -/
def forRepair (i : Injection) (pod : Pod) : Injection :=
  { i with workload := (InstallContainer.find? pod).bind InstallContainer.workload? }

/-- The Pod after the repair, and whether anything was changed. -/
def repair (i : Injection) (pod : Pod) : Pod × Bool :=
  let a := (i.forRepair pod).attachment
  match a.isEmpty, pod.spec with
  | false, some spec =>
    let install? := InstallContainer.find? pod
    let containers := spec.containers.map fun c => (lacking a install?.isSome c).attach c
    let given := spec.containers.any fun c => !(lacking a install?.isSome c).isEmpty
    match a.agent.isSome, install? with
    | true, some install =>
      let synced := InstallContainer.sync install containers
      let isInstall (c : Container) : Bool := c.name = InstallContainer.name
      let initContainers := spec.initContainers.map (replaceFirst isInstall fun _ => synced)
      ({ pod with spec := some { spec with containers, initContainers } },
        given || InstallContainer.isStale install containers)
    | _, _ => ({ pod with spec := some { spec with containers } }, given)
  | _, _ => (pod, false)

end Injection

end InjectionWebhook
