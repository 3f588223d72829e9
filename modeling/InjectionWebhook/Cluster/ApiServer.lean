/-
# An API server in memory

Objects are kept by path.  A request can be made to fail by a fault; otherwise a `get` answers the
object at its path, and a `create` adds a secret at the path of its name unless something is there
already. Nothing else changes what is kept.

* `ApiServer.answer` is the answer to a request and the server after it.
-/
import InjectionWebhook.Cluster.Request

namespace InjectionWebhook

/-- An API server: its objects by path, and the requests that are to fail. -/
structure ApiServer where
  objects : Dict StoredObject := .empty
  faults : Dict ApiStatus := .empty
  /-- The requests answered so far, the last one first. -/
  log : List Request := []

namespace ApiServer

/-- The last two segments of a path. -/
def lastSegments (path : String) : String × String :=
  match (path.splitOn "/").reverse with
  | name :: plural :: _ => (plural, name)
  | [name] => ("", name)
  | [] => ("", "")

/-- The refusal for a path where nothing is. -/
def absent (path : String) : ApiStatus :=
  let (plural, name) := lastSegments path
  { code := 404, message := plural ++ " \"" ++ name ++ "\" not found", reason := "NotFound" }

/-- The refusal for a name that is taken. -/
def taken (path : String) : ApiStatus :=
  let (plural, name) := lastSegments path
  { code := 409, message := plural ++ " \"" ++ name ++ "\" already exists",
    reason := "AlreadyExists" }

/-- The path of a new secret. -/
def pathOf (collection : String) (secret : Secret) : String :=
  collection ++ "/" ++ secret.metadata.nameOrEmpty

/-- The fault of a request. -/
def fault? (s : ApiServer) (r : Request) : Option ApiStatus := r.line?.bind s.faults.get?

/-- The answer to a request, and the objects after it. -/
def respond (s : ApiServer) : (r : Request) → r.Answer × Dict StoredObject
  | .get path =>
    match s.fault? (.get path), s.objects.get? path with
    | some status, _ => (.error status, s.objects)
    | none, some o => (.ok o, s.objects)
    | none, none => (.error (absent path), s.objects)
  | .create collection secret =>
    let path := pathOf collection secret
    match s.fault? (.create collection secret) with
    | some status => (.error status, s.objects)
    | none =>
      if s.objects.contains path then (.error (taken path), s.objects)
      else (.ok (), s.objects.insert path (.secret secret))
  | .announce _ => ((), s.objects)

/-- The answer to a request, and the server after it. -/
def answer (r : Request) (s : ApiServer) : r.Answer × ApiServer :=
  let (reply, objects) := s.respond r
  (reply, { s with objects, log := r :: s.log })

/-- Takes an object away. -/
def delete (s : ApiServer) (path : String) : ApiServer := { s with objects := s.objects.erase path }

/-- The secrets that are there now and were not there before. -/
def created (before after : ApiServer) : List (String × Secret) :=
  after.objects.entries.filterMap fun (path, o) =>
    match o with
    | .secret s => if before.objects.contains path then none else some (path, s)
    | .document _ => none

end ApiServer

end InjectionWebhook
