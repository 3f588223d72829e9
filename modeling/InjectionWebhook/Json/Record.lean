/-
# Decoding records

A record is described by its fields (`Field`): the name of a member, and what its value does to the
record read so far.  Reading goes through the members in the order in which they stand, so of two
mistakes the first one is reported; what must be there and is not is reported last.

Three disciplines say what an absent member means:

* `Field.optional`: absent and `null` both mean "not given";
* `Field.orDefault`: absent and `null` both mean the default;
* `Field.plain`: absent means what the record starts with, `null` has to fit like any other value.

Records differ in the forms they may be written in:

* `Decoder.object`: an object; of two members with one name the last counts;
* `Decoder.record`: an object that names no field twice, or the list of the fields in their order;
* `Decoder.openRecord`: an object that names no field twice and whose other members are kept.
-/
import InjectionWebhook.Json.Decode

namespace InjectionWebhook

/-! ## 1. Fields -/

/-- Whether a record must give a field. -/
inductive Need where
  | always
  /-- It may be left out of an object. -/
  | inLists
  | never
deriving DecidableEq

/-- A field of a record. -/
structure Field (σ : Type) where
  key : String
  /-- What a value does to the record read so far.  A value that does not fit the record as a whole
  is reported at the given place behind it. -/
  read : (behind : Mark) → Json.Written → σ → Except Flaw σ
  need : Need := .never

namespace Field

/-- A field whose value has to fit. -/
def plain (key : String) (d : Decoder α) (set : α → σ → σ) : Field σ where
  key
  read _ w s := (d w).map (set · s)

/-- A field that may be absent or `null`. -/
def optional (key : String) (d : Decoder α) (set : Option α → σ → σ) : Field σ :=
  plain key d.nullable set

/-- A field that takes a default where it is absent or `null`; the record starts with the
default. -/
def orDefault (key : String) (d : Decoder α) (default : α) (set : α → σ → σ) : Field σ :=
  plain key d.nullable fun v => set (v.getD default)

/-- A field that may be absent but is otherwise the given text. -/
def constant (key expected : String) : Field σ where
  key
  read behind w s := do
    let found ← Decoder.text w
    if found = expected then return s else throw ((Mismatch.value (.str found) expected).at_ behind)

/-- The field, which must be given. -/
def required (f : Field σ) : Field σ := { f with need := .always }

/-- The field, which must be given where the record is a list. -/
def requiredInLists (f : Field σ) : Field σ := { f with need := .inLists }

end Field

/-! ## 2. Objects -/

/-- How the members of an object make a record. -/
structure Layout (σ : Type) where
  fields : List (Field σ)
  /-- No field may be given twice. -/
  once : Bool := false
  /-- What becomes of a member that is no field. -/
  other : String → Json.Written → σ → Except Flaw σ := fun _ w s => do
    w.pass
    return s

namespace Layout

variable {σ : Type}

/-- Reads members from left to right; `seen` are the fields read before.  `stop` is the place behind
the object, which is also the place behind its last member. -/
def readMembers (l : Layout σ) (stop : Mark) : (seen : List String) →
    List (MemberName × Json.Written) → σ → Except Flaw (List String × σ)
  | seen, [], s => .ok (seen, s)
  | seen, (name, w) :: rest, s => do
    let key ← name.read
    match l.fields.find? (·.key = key) with
    | none => l.readMembers stop seen rest (← l.other key w s)
    | some f =>
      if l.once && seen.contains key then throw ((Mismatch.repeated key).at_ none)
      let behind := if rest.isEmpty then stop else w.extent.stop
      l.readMembers stop (key :: seen) rest (← f.read behind w s)

/-- The first field that must be given and is not among those seen. -/
def missing? (l : Layout σ) (seen : List String) : Option String :=
  (l.fields.find? fun f => f.need = .always && !seen.contains f.key).map (·.key)

/-- Reads a whole object. -/
def readObject (l : Layout σ) (start : σ) (o : Outline)
    (members : List (MemberName × Json.Written)) : Except Flaw σ := do
  o.enter
  let (seen, s) ← l.readMembers o.stop [] members start
  o.leave
  match l.missing? seen with
  | some key => throw ((Mismatch.missing key).at_ o.stop)
  | none => return s

end Layout

/-! ## 3. Lists -/

namespace Field

/-- The first field of several that a list must give, with its position. -/
def firstNeeded? (fields : List (Field σ)) (position : Nat) : Option Nat :=
  match fields with
  | [] => none
  | f :: rest => if f.need = .never then firstNeeded? rest (position + 1) else some position

/-- What is wrong with elements behind the last field.  A document says how many there are; a text
is refused behind the start of the first of them. -/
def refuseSurplus (count : Nat) : List Json.Written → Except Flaw Unit
  | [] => .ok ()
  | .broken :: _ => .error (Malformation.illFormed.at_ none)
  | w :: _ =>
    match w.extent.start with
    | none => .error ((Mismatch.length count "fewer elements in array").at_ none)
    | some place => .error (Malformation.surplus.at_ (some place.next))

/-- Reads elements as fields, one after the other. -/
def readItems : List (Field σ) → List Json.Written → σ → Except Flaw σ
  | f :: fields, w :: items, s => do readItems fields items (← f.read w.extent.stop w s)
  | _, _, s => .ok s

end Field

/-! ## 4. Records -/

namespace Decoder

/-- A record, written as an object. -/
def object (name : String) (start : σ) (fields : List (Field σ)) : Decoder σ
  | .obj o members => Layout.readObject { fields } start o members
  | .arr o items => do
    o.enter
    let empty := o.closed && items.isEmpty
    throw ((Mismatch.kind (.arr []) name).at_ (if empty then o.stop else o.second))
  | w => .error (w.unfit name)

/-- A record, written as an object or as the list of its fields. -/
def record (name : String) (start : σ) (fields : List (Field σ)) : Decoder σ
  | .obj o members => Layout.readObject { fields, once := true } start o members
  | .arr o items => do
    let elements := if fields.length = 1 then " element" else " elements"
    o.enter
    let s ← Field.readItems fields items start
    Field.refuseSurplus items.length (items.drop fields.length)
    o.leave
    match Field.firstNeeded? (fields.drop items.length) items.length with
    | some position =>
      let expected := name ++ " with " ++ toString fields.length ++ elements
      throw ((Mismatch.length position expected).at_ o.stop)
    | none => return s
  | w => .error (w.unfit name)

/-- A record, written as an object.  The members that are no fields are read as they are and come
with it, in the order in which they stand. -/
def openRecord (name : String) (start : σ) (fields : List (Field σ)) :
    Decoder (σ × List (String × Json))
  | .obj o members => do
    let wide (f : Field σ) : Field (σ × List (String × Json)) :=
      { f with read := fun behind w s => do return (← f.read behind w s.1, s.2) }
    let (s, others) ← Layout.readObject
      { fields := fields.map wide, once := true
        other := fun key w s => do return (s.1, (key, ← any w) :: s.2) } (start, []) o members
    return (s, others.reverse)
  | w => .error (w.unfit name)

end Decoder
end InjectionWebhook
