/-
# JSON values

A document is a tree of scalars, lists and objects.  An object lists its members as pairs; the
reader and `Json.record` list them in ascending key order, each key once (`Json.Canonical`), and
look-ups take the first pair with a key.

A number without fraction and exponent that fits into 64 bits is an `int`, every other number a
`decimal`.
-/
import InjectionWebhook.Decimal
import InjectionWebhook.Dict

namespace InjectionWebhook

/-- A JSON document. -/
inductive Json where
  | null
  | bool (value : Bool)
  | int (value : Int)
  | decimal (value : Decimal)
  | str (value : String)
  | arr (items : List Json)
  | obj (members : List (String × Json))

namespace Json

instance : Inhabited Json := ⟨.null⟩

/-! ## 1. Looking inside -/

/-- The member of an object at a key. -/
def member? : Json → String → Option Json
  | .obj members, key => members.lookup key
  | _, _ => none

/-- The text of a text value. -/
def text? : Json → Option String
  | .str s => some s
  | _ => none

/-! ## 2. Building -/

/-- The object of the given members, the absent ones left out. -/
def record (members : List (String × Option Json)) : Json :=
  .obj (members.filterMap fun (key, value) => value.map (key, ·))

/-- The object of a map. -/
def ofDict (f : α → Json) (d : Dict α) : Json :=
  .obj (d.entries.map fun (key, value) => (key, f value))

/-- The list of the values of a list. -/
def ofList (f : α → Json) (items : List α) : Json := .arr (items.map f)

/-! ## 3. The canonical form -/

mutual

/-- Every object in the document has its keys in ascending order, each once. -/
def Canonical : Json → Prop
  | .arr items => CanonicalItems items
  | .obj members => Entries.Ascending members ∧ CanonicalMembers members
  | _ => True

/-- Every element of a list is canonical. -/
def CanonicalItems : List Json → Prop
  | [] => True
  | item :: rest => Canonical item ∧ CanonicalItems rest

/-- Every member of an object is canonical. -/
def CanonicalMembers : List (String × Json) → Prop
  | [] => True
  | (_, value) :: rest => Canonical value ∧ CanonicalMembers rest

end

end Json

end InjectionWebhook
