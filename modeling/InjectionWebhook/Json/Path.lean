/-
# Places in a document

A `Step` goes into an object by key or into a list by index, a `Path` is a list of steps.

* `Path.pointer` writes a path as a JSON pointer (RFC 6901), `Json.at?` follows a written pointer;
* `Json.edit` changes a document the way an operator's hand edit does: it makes room on its way, and
  an edit that cannot be carried out leaves the document as it is.
-/
import InjectionWebhook.Json.Value

namespace InjectionWebhook
namespace Json

/-- One step into a document. -/
inductive Step where
  | key (name : String)
  | index (position : Nat)
deriving DecidableEq

/-- A place in a document, from the root. -/
abbrev Path := List Step

/-! ## 1. Pointers -/

/-- A key inside a pointer: `~` and `/` are written `~0` and `~1`. -/
def escapeKey (key : String) : String :=
  String.ofList (key.toList.flatMap fun c =>
    if c = '~' then ['~', '0'] else if c = '/' then ['~', '1'] else [c])

/-- The pointer token of a step. -/
def Step.token : Step → String
  | .key name => escapeKey name
  | .index i => toString i

/-- The pointer of a path: each token after a slash. -/
def Path.pointer (path : Path) : String :=
  path.foldl (fun text step => text ++ "/" ++ step.token) ""

/-- Replaces `~1` by a slash. -/
def unescapeSlash : List Char → List Char
  | '~' :: '1' :: rest => '/' :: unescapeSlash rest
  | c :: rest => c :: unescapeSlash rest
  | [] => []

/-- Replaces `~0` by a tilde. -/
def unescapeTilde : List Char → List Char
  | '~' :: '0' :: rest => '~' :: unescapeTilde rest
  | c :: rest => c :: unescapeTilde rest
  | [] => []

/-- The key a pointer token means. -/
def unescapeKey (token : String) : String :=
  String.ofList (unescapeTilde (unescapeSlash token.toList))

/-- The index a pointer token means: decimal digits without a leading zero. -/
def indexOf? (token : String) : Option Nat :=
  match token.toList with
  | [] => none
  | '0' :: _ :: _ => none
  | cs =>
    if cs.all Char.isDigit then some (cs.foldl (fun n c => 10 * n + (c.toNat - 48)) 0) else none

/-- What stands at the end of a list of pointer tokens. -/
def follow? : Json → List String → Option Json
  | j, [] => some j
  | .obj members, token :: rest => (members.lookup (unescapeKey token)).bind (follow? · rest)
  | .arr items, token :: rest =>
    ((indexOf? token).bind fun i => items[i]?).bind (follow? · rest)
  | _, _ :: _ => none

/-- What a pointer means: the whole document if it is empty, nothing if it starts without a
slash. -/
def at? (j : Json) (pointer : String) : Option Json :=
  if pointer.isEmpty then some j
  else match pointer.splitOn "/" with
    | "" :: tokens => follow? j tokens
    | _ => none

/-! ## 2. Edits -/

/-- Removes the first member with a key. -/
def eraseMember (key : String) (members : List (String × Json)) : List (String × Json) :=
  members.filter fun m => m.1 ≠ key

/-- The members of an object; anything else counts as an object without members. -/
def membersOrNone : Json → List (String × Json)
  | .obj members => members
  | _ => []

/-- Sets (`some`) or removes (`none`) what is at a path.

A key makes an object of what is no object and a member `{}` of what is absent.  An index enters a
list where it is in range.  At the end an index inserts before that element, at most at the end of
the list, or removes it. -/
def edit (value : Option Json) : Path → Json → Json
  | [], j => j
  | [.key k], j =>
    match value with
    | some v => .obj (Entries.insert k v j.membersOrNone)
    | none => .obj (eraseMember k j.membersOrNone)
  | [.index i], .arr items =>
    match value with
    | some v => .arr (items.insertIdx (min i items.length) v)
    | none => .arr (items.eraseIdx i)
  | .key k :: rest, j =>
    let members := j.membersOrNone
    .obj (Entries.insert k (edit value rest ((members.lookup k).getD (.obj []))) members)
  | .index i :: rest, .arr items =>
    match items[i]? with
    | some item => .arr (items.set i (edit value rest item))
    | none => .arr items
  | .index _ :: _, j => j

end Json
end InjectionWebhook
