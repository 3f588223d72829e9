/-
# Patches

A patch (RFC 6902) is a list of operations `add`, `remove` and `replace`, carried out in order.

* `Json.diff a b` compares two documents member by member and element by element and lists the
  operations that turn `a` into `b`: for an object first what the right side has, then what only the
  left side has; for a list the surplus elements at its end.
* `Patch.applyTo?` carries a patch out; it fails where a step leads nowhere.
-/
import InjectionWebhook.Json.Path

namespace InjectionWebhook
namespace Json

/-- One operation of a patch. -/
inductive PatchOp where
  | add (path : Path) (value : Json)
  | remove (path : Path)
  | replace (path : Path) (value : Json)

/-- A list of operations, carried out in order. -/
abbrev Patch := List PatchOp

/-- The operation one step deeper in the document. -/
def PatchOp.under (step : Step) : PatchOp → PatchOp
  | .add path value => .add (step :: path) value
  | .remove path => .remove (step :: path)
  | .replace path value => .replace (step :: path) value

/-- The patch one step deeper in the document. -/
def Patch.under (step : Step) (patch : Patch) : Patch := patch.map (.under step)

/-! ## 1. Comparing two documents -/

/-- The operations that drop the members which only the left object has. -/
def dropped (left right : List (String × Json)) : Patch :=
  (left.filter fun m => (right.lookup m.1).isNone).map fun m => .remove [.key m.1]

mutual

/-- The operations that turn `left` into the second document. -/
def diff (left : Json) : Json → Patch
  | .obj right =>
    match left with
    | .obj members => diffMembers members right ++ dropped members right
    | _ => [.replace [] (.obj right)]
  | .arr right =>
    match left with
    | .arr items => diffItems 0 items right
    | _ => [.replace [] (.arr right)]
  | .null => match left with
    | .null => []
    | _ => [.replace [] .null]
  | .bool y => match left with
    | .bool x => if x = y then [] else [.replace [] (.bool y)]
    | _ => [.replace [] (.bool y)]
  | .int y => match left with
    | .int x => if x = y then [] else [.replace [] (.int y)]
    | _ => [.replace [] (.int y)]
  | .decimal y => match left with
    | .decimal x => if x = y then [] else [.replace [] (.decimal y)]
    | _ => [.replace [] (.decimal y)]
  | .str y => match left with
    | .str x => if x = y then [] else [.replace [] (.str y)]
    | _ => [.replace [] (.str y)]
termination_by structural right => right

/-- The operations that give `left` the members of the second object. -/
def diffMembers (left : List (String × Json)) : List (String × Json) → Patch
  | [] => []
  | (key, value) :: rest =>
    (match left.lookup key with
      | none => [.add [.key key] value]
      | some old => Patch.under (.key key) (diff old value)) ++ diffMembers left rest
termination_by structural right => right

/-- The operations that turn the elements of a list from position `i` on into the second list.
Surplus elements on the left all go from the position behind the last common one. -/
def diffItems (i : Nat) (left : List Json) : List Json → Patch
  | [] => List.replicate left.length (.remove [.index i])
  | item :: rest =>
    (match left with
      | [] => [.add [.index i] item]
      | old :: _ => Patch.under (.index i) (diff old item)) ++ diffItems (i + 1) left.tail rest
termination_by structural right => right

end

/-! ## 2. Carrying a patch out -/

/-- Changes the member at a key, which must exist. -/
def updateMember? (key : String) (f : Json → Option Json) :
    List (String × Json) → Option (List (String × Json))
  | [] => none
  | (k, v) :: rest =>
    if k = key then (f v).map fun v => (k, v) :: rest
    else (updateMember? key f rest).map ((k, v) :: ·)

/-- Changes what is one step inside a document, which must exist. -/
def into? (step : Step) (f : Json → Option Json) (j : Json) : Option Json :=
  match step, j with
  | .key k, .obj members => (updateMember? k f members).map .obj
  | .index i, .arr items =>
    items[i]?.bind fun item => (f item).map fun item => .arr (items.set i item)
  | _, _ => none

/-- Adds a member or an element.  A member already there is replaced. -/
def addAt? (step : Step) (value : Json) (j : Json) : Option Json :=
  match step, j with
  | .key k, .obj members => some (.obj (Entries.insert k value members))
  | .index i, .arr items => if i ≤ items.length then some (.arr (items.insertIdx i value)) else none
  | _, _ => none

/-- Removes a member or an element, which must exist. -/
def removeAt? (step : Step) (j : Json) : Option Json :=
  match step, j with
  | .key k, .obj members =>
    if (members.lookup k).isSome then some (.obj (eraseMember k members)) else none
  | .index i, .arr items => if i < items.length then some (.arr (items.eraseIdx i)) else none
  | _, _ => none

/-- Carries one operation out. -/
def PatchOp.applyTo? : PatchOp → Json → Option Json
  | .add path value => go (fun _ => some value) (addAt? · value) path
  | .remove path => go (fun _ => none) removeAt? path
  | .replace path value =>
    go (fun _ => some value) (fun step => into? step fun _ => some value) path
where
  /-- Goes down to the last step of a path. -/
  go (root : Json → Option Json) (last : Step → Json → Option Json) : Path → Json → Option Json
    | [], j => root j
    | [step], j => last step j
    | step :: next :: rest, j => into? step (go root last (next :: rest)) j

/-- Carries the operations out one after the other. -/
def Patch.applyTo? (patch : Patch) (j : Json) : Option Json :=
  patch.foldlM (fun j op => op.applyTo? j) j

end Json
end InjectionWebhook
