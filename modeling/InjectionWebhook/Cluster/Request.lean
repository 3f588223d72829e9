/-
# Requests to the API server

The questions of an admission come down to three requests: get the object at a path, create a secret
in a collection, and announce an event.  `itemPath` and `collectionPath` make the path of a request
or say why it cannot be sent; `get` and `create` send it.
-/
import InjectionWebhook.Cluster.Query
import InjectionWebhook.Kubernetes.Kind
import InjectionWebhook.Kubernetes.Secret

namespace InjectionWebhook

/-! ## 1. Objects and requests -/

/-- An object as the API server keeps it. -/
inductive StoredObject where
  | document (value : Json)
  | secret (value : Secret)

/-- A request to the API server. -/
inductive Request where
  | get (path : String)
  | create (collection : String) (secret : Secret)
  | announce (event : Event)

/-- What a request is answered by. -/
def Request.Answer : Request → Type
  | .get _ => Except ApiStatus StoredObject
  | .create _ _ => Except ApiStatus Unit
  | .announce _ => Unit

/-- A program that sends requests. -/
abbrev RequestDialogue (α : Type) := Dialogue Request Request.Answer α

/-- A request in one line; announcements have none. -/
def Request.line? : Request → Option String
  | .get path => some ("GET " ++ path)
  | .create collection _ => some ("POST " ++ collection)
  | .announce _ => none

/-! ## 2. Paths -/

/-- The character may stand in a path.  Characters beyond ASCII may. -/
def isPathChar (c : Char) : Bool :=
  let n := c.toNat
  n == 0x21 || n == 0x22 || (0x24 ≤ n && n ≤ 0x3b) || n == 0x3d || (0x40 ≤ n && n ≤ 0x5f) ||
    (0x61 ≤ n && n ≤ 0x7e) || 0x80 ≤ n

/-- The character may stand behind the question mark after a path. -/
def isQueryChar (c : Char) : Bool :=
  let n := c.toNat
  n == 0x21 || (0x24 ≤ n && n ≤ 0x3b) || n == 0x3d || (0x3f ≤ n && n ≤ 0x7e) || 0x80 ≤ n

/-- The path of a target: what stands before a question mark or a number sign.  None if the target
holds a character that it must not hold. -/
def pathOf? (target : String) : Option String :=
  let cs := target.toList
  let path := cs.takeWhile fun c => c ≠ '?' && c ≠ '#'
  let query := (cs.dropWhile fun c => c ≠ '?' && c ≠ '#').takeWhile (· ≠ '#')
  if path.all isPathChar && (query.drop 1).all isQueryChar then some (String.ofList path) else none

/-- The path of a collection. -/
def collectionPath (resource : ApiResource) (ns : Option String) : Except RequestFailure String :=
  match pathOf? (resource.collection ns ++ "?") with
  | some path => .ok path
  | none => .error .invalidPath

/-- The path of an object, which must have a name. -/
def itemPath (resource : ApiResource) (ns : Option String) (name : String) :
    Except RequestFailure String :=
  if name.isEmpty then .error .emptyName
  else match pathOf? (resource.collection ns ++ "/" ++ name ++ "?") with
    | some path => .ok path
    | none => .error .invalidPath

/-! ## 3. Sending -/

/-- A refusal, as a failure. -/
def ApiStatus.failure (s : ApiStatus) : Failure := .request (.refused s)

/-- Gets the object with a name. -/
def getObject (resource : ApiResource) (ns : Option String) (name : String) :
    RequestDialogue (Except Failure StoredObject) :=
  match itemPath resource ns name with
  | .error e => .done (.error (.request e))
  | .ok path => .ask (.get path) fun r => .done (r.mapError ApiStatus.failure)

/-- Gets the object with a name and reads it. -/
def getAs (resource : ApiResource) (ns : Option String) (name : String)
    (read : StoredObject → Except Flaw α) : RequestDialogue (Except Failure α) :=
  (getObject resource ns name).bind fun r => .done <|
    match r with
    | .error e => .error e
    | .ok o => (read o).mapError fun f => .request (.undecodable f)

/-- Gets the object with a name and reads it; none if the server says that there is none. -/
def getIfPresent (resource : ApiResource) (ns : Option String) (name : String)
    (read : StoredObject → Except Flaw α) : RequestDialogue (Except Failure (Option α)) :=
  (getAs resource ns name read).bind fun r => .done <|
    match r with
    | .ok a => .ok (some a)
    | .error e => if e.saysNotFound then .ok none else .error e

/-- Creates a secret unless there is one with its name: whether it was created. -/
def createIfAbsent (ns : String) (secret : Secret) : RequestDialogue (Except Failure Bool) :=
  match collectionPath .secrets (some ns) with
  | .error e => .done (.error (.request e))
  | .ok path => .ask (.create path secret) fun
    | .ok () => .done (.ok true)
    | .error s => .done (if s.failure.saysConflict then .ok false else .error s.failure)

end InjectionWebhook
