/-
# Document types

API version and kind say what type of document an object is.  They stand among its other members,
and `DocumentType.take` takes them out: what it answers of the members is what is left.

Taking goes from left to right and stops at the first of the two that is no text or is given again.
What was taken until then is gone, and what stands behind stays, whatever it is called.
-/
import InjectionWebhook.Json.Decode

namespace InjectionWebhook

/-- API version and kind of a document. -/
structure DocumentType where
  apiVersion : String
  kind : String
deriving DecidableEq

namespace DocumentType

/-- What is known of a document type. -/
structure Partial where
  apiVersion : Option String := none
  kind : Option String := none

namespace Partial

/-- Both halves, if both are known. -/
def whole (p : Partial) : Except Mismatch DocumentType :=
  match p.apiVersion, p.kind with
  | some apiVersion, some kind => .ok { apiVersion, kind }
  | none, _ => .error (.missing "apiVersion")
  | some _, none => .error (.missing "kind")

/-- Takes one half, which is a text and is not known yet. -/
def half (key : String) (known : Option String) : Json → Except Mismatch String
  | .str s => if known.isSome then .error (.repeated key) else .ok s
  | j => if known.isSome then .error (.repeated key) else .error (.kind j "a string")

/-- Takes what is not known yet out of members. -/
def take (p : Partial) : List (String × Json) → Except Mismatch DocumentType × List (String × Json)
  | [] => (p.whole, [])
  | (key, value) :: rest =>
    if key = "apiVersion" then
      match half key p.apiVersion value with
      | .ok s => { p with apiVersion := some s }.take rest
      | .error m => (.error m, rest)
    else if key = "kind" then
      match half key p.kind value with
      | .ok s => { p with kind := some s }.take rest
      | .error m => (.error m, rest)
    else
      let (type, left) := p.take rest
      (type, (key, value) :: left)

end Partial

/-- Takes API version and kind out of members. -/
def take (members : List (String × Json)) : Except Mismatch DocumentType × List (String × Json) :=
  Partial.take {} members

end DocumentType

end InjectionWebhook
