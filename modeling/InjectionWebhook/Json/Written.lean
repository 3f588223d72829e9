/-
# Documents as they stand in a text

A text under reading may hold less than a document: it can break off, hold a number that is too
large, or name a member twice.  `Written` is what a text holds, in its own order and with its own
places, as far as it can be made out.  Whoever looks for a typed value in it meets what is wrong
exactly where it stands, and only there.

`Written.ofJson` is a document without a text: nothing is wrong with it, and nothing has a place.
-/
import InjectionWebhook.Json.Value

namespace InjectionWebhook

/-! ## 1. Places -/

/-- A place in a text: the line, counted from one, and the bytes since the line began. -/
structure Place where
  line : Nat := 1
  column : Nat := 0
deriving DecidableEq

/-- The place behind a character that stands here. -/
def Place.behind (p : Place) (c : Char) : Place :=
  if c = '\n' then { line := p.line + 1, column := 0 }
  else { p with column := p.column + c.utf8Size }

/-- The place one byte on. -/
def Place.next (p : Place) : Place := { p with column := p.column + 1 }

/-- A place, where there is a text. -/
abbrev Mark := Option Place

/-- Where a value begins and ends. -/
structure Extent where
  start : Mark := none
  stop : Mark := none

/-- Where a list or an object begins and ends, and whether it is fit for reading. -/
structure Outline extends Extent where
  /-- Its end was reached; otherwise the text makes no sense behind the last part. -/
  closed : Bool := true
  /-- It is nested too deeply to be looked into. -/
  deep : Bool := false

/-! ## 2. Parts of a text -/

/-- What is wrong with a text. -/
inductive Malformation where
  /-- It does not go on as JSON does. -/
  | illFormed
  /-- Half of a surrogate pair stands alone. -/
  | loneSurrogate
  | numberTooLarge
  | tooDeep
  /-- More follows than was to be read. -/
  | surplus
deriving DecidableEq

/-- What a member of an object is called. -/
inductive MemberName where
  | name (text : String)
  /-- The name cannot be taken. -/
  | spoiled (why : Malformation)
  /-- The value stands where a name should: a name must be a text. -/
  | foreign (value : Json)

namespace Json

/-- What a text holds. -/
inductive Written where
  /-- A value that is neither list nor object, or why it cannot be taken. -/
  | leaf (extent : Extent) (value : Except Malformation Json)
  | arr (outline : Outline) (items : List Written)
  | obj (outline : Outline) (members : List (MemberName × Written))
  /-- The text makes no sense here. -/
  | broken

namespace Written

instance : Inhabited Written := ⟨.broken⟩

/-- Where a part of a text begins and ends. -/
def extent : Written → Extent
  | .leaf e _ => e
  | .arr o _ | .obj o _ => o.toExtent
  | .broken => {}

mutual

/-- A document as it stands in no text. -/
def ofJson : Json → Written
  | .arr items => .arr {} (ofItems items)
  | .obj members => .obj {} (ofMembers members)
  | j => .leaf {} (.ok j)

/-- The elements of a list. -/
def ofItems : List Json → List Written
  | [] => []
  | item :: rest => ofJson item :: ofItems rest

/-- The members of an object. -/
def ofMembers : List (String × Json) → List (MemberName × Written)
  | [] => []
  | (key, value) :: rest => (.name key, ofJson value) :: ofMembers rest

end

mutual

/-- The text makes sense up to the end of this part, whatever the part stands for. -/
def isWhole : Written → Bool
  | .leaf _ _ => true
  | .arr o items => o.closed && areWhole items
  | .obj o members => o.closed && membersAreWhole members
  | .broken => false

/-- The text makes sense throughout the elements of a list. -/
def areWhole : List Written → Bool
  | [] => true
  | item :: rest => isWhole item && areWhole rest

/-- The text makes sense throughout the members of an object. -/
def membersAreWhole : List (MemberName × Written) → Bool
  | [] => true
  | (_, value) :: rest => isWhole value && membersAreWhole rest

end

end Written
end Json
end InjectionWebhook
