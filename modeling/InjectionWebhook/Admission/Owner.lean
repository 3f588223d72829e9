/-
# The workload of a Pod

The workload a Pod belongs to is found by following controller references upwards from the Pod.

* A Pod without a controller is its own workload and has no kind.
* A controller that is not one of the recognised workloads is the answer as it is referenced.
* A recognised controller is fetched, and the walk goes on from it.

References are untrusted: no object is fetched twice, and only so many objects are fetched at all.
-/
import InjectionWebhook.Cluster.Query

namespace InjectionWebhook
namespace Owner

/-- How many owners are fetched where nothing else is said. -/
def defaultDepth : Nat := 10

/-- API version and kind of the controllers the walk goes through. -/
def recognised : List (String × String) :=
  [ ("apps/v1", "ReplicaSet"), ("apps/v1", "Deployment"), ("v1", "ReplicationController"),
    ("apps/v1", "StatefulSet"), ("apps/v1", "DaemonSet"), ("batch/v1", "Job"),
    ("batch/v1", "CronJob"), ("apps.openshift.io/v1", "DeploymentConfig") ]

/-- The walk goes through the owner. -/
def isRecognised (o : OwnerReference) : Bool := recognised.contains (o.apiVersion, o.kind)

/-- The reference is to a workload that makes Pods, or to one that makes such workloads. -/
def IsWorkload (o : OwnerReference) : Prop :=
  o.apiVersion = "apps/v1" ∧ o.kind ∈ ["ReplicaSet", "Deployment", "StatefulSet", "DaemonSet"] ∨
    o.apiVersion = "batch/v1" ∧ o.kind ∈ ["Job", "CronJob"] ∨
    o.apiVersion = "v1" ∧ o.kind = "ReplicationController" ∨
    o.apiVersion = "apps.openshift.io/v1" ∧ o.kind = "DeploymentConfig"

instance (o : OwnerReference) : Decidable (IsWorkload o) :=
  inferInstanceAs (Decidable (_ ∨ _))

theorem isRecognised_iff {o : OwnerReference} : isRecognised o = true ↔ IsWorkload o := by
  simp only [isRecognised, recognised, List.contains_iff_mem, List.mem_cons, List.not_mem_nil,
    Prod.mk.injEq, IsWorkload, or_false]
  constructor
  · rintro (h | h | h | h | h | h | h | h) <;> simp [h]
  · rintro (⟨h, h' | h' | h' | h'⟩ | ⟨h, h' | h'⟩ | ⟨h, h'⟩ | ⟨h, h'⟩) <;> simp [h, h']

/-- The first owner marked as the controller. -/
def controller? (owners : Option (List OwnerReference)) : Option OwnerReference :=
  (owners.getD []).find? (·.controller = some true)

/-- More owners than allowed would have to be fetched. -/
def tooDeep (depth : Nat) : Failure :=
  .internal "owner" ("owner chain deeper than " ++ toString depth ++ " objects")

/-- An owner is reached for the second time. -/
def cycle (o : OwnerReference) : Failure :=
  .internal "owner" ("owner cycle through " ++ o.kind ++ " '" ++ o.name ++ "'")

/-- The walk from an object with the given owners: `left` more owners may be fetched, those in
`visited` were fetched already, and `current` is the workload if the object has no controller. -/
def walk (ns : String) (depth : Nat) :
    (left : Nat) → (visited : List (String × String)) → (current : Workload) →
    (owners : Option (List OwnerReference)) → ClusterDialogue (Except Failure Workload)
  | left, visited, current, owners =>
    match controller? owners with
    | none => .done (.ok current)
    | some o =>
      if !isRecognised o then .done (.ok { kind := o.kind, name := o.name })
      else
        match left with
        | 0 => .done (.error (tooDeep depth))
        | left + 1 =>
          if visited.contains (o.kind, o.name) then .done (.error (cycle o))
          else
            .ask (.owner o ns) fun
              | .error e => .done (.error e)
              | .ok fetched =>
                walk ns depth left ((o.kind, o.name) :: visited)
                  { kind := o.kind, name := fetched.name.getD o.name } fetched.ownerReferences

/-- The workload of an object with the given metadata, after at most `depth` fetched owners. -/
def resolve (m : ObjectMeta) (ns : String) (depth : Nat) :
    ClusterDialogue (Except Failure Workload) :=
  walk ns depth depth [] { kind := "", name := m.nameOrEmpty } m.ownerReferences

end Owner
end InjectionWebhook
