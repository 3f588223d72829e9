/-
# Starting the webhook

Before it serves, the program finds out the image of the install container (given, or that of its
own Pod) and the identity of the cluster, and reads its TLS material.  `Startup.start` is that
sequence with the log records it writes; whether TLS material is to be had is up to the outer layer.
-/
import InjectionWebhook.Cluster.Client
import InjectionWebhook.Command.Arguments
import InjectionWebhook.Review.Endpoint

namespace InjectionWebhook

/-- A log record. -/
structure LogRecord where
  level : String
  fields : List (String × String)

/-- Why the webhook does not start. -/
inductive StartError where
  /-- There is no cluster to talk to. -/
  | noCluster
  /-- Neither an image nor the name of the own Pod is given. -/
  | noImage
  | podUnreadable (ns name : String)
  | podWithoutImage (name : String)
  | noClusterId
  | noTls (certificate : String)

/-- The text of a start error. -/
def StartError.message : StartError → String
  | .noCluster => "Failed to create Kubernetes client"
  | .noImage => "--image or --pod-name is required to determine the install image"
  | .podUnreadable ns name => "Failed to read own pod " ++ ns ++ "/" ++ name
  | .podWithoutImage name => "own pod " ++ name ++ " has no container image"
  | .noClusterId => "Failed to read cluster id"
  | .noTls certificate => "Failed to load TLS material from " ++ certificate

/-- The first line of what is reported about a start error. -/
def StartError.report (e : StartError) : String := Text.firstLine ("Error: " ++ e.message ++ "\n")

namespace Startup

open Command (Options)

/-- A dialogue that may fail to start, with the log records it writes. -/
abbrev Attempt (α : Type) :=
  ExceptT StartError (StateT (List LogRecord) (Dialogue Request Request.Answer)) α

/-- Writes a log record. -/
def log (level : String) (fields : List (String × String)) : Attempt Unit :=
  modify (· ++ [{ level, fields }])

/-- Sends requests that may fail. -/
def ask (d : RequestDialogue (Except Failure α)) (e : StartError) : Attempt α := do
  match ← ExceptT.lift (StateT.lift d) with
  | .ok a => return a
  | .error _ => throw e

/-- The image of the first container of the own Pod. -/
def ownImage (o : Options) : Attempt String := do
  match o.podName with
  | none => throw .noImage
  | some name =>
    let pod ← ask (getAs .pods (some o.namespace_) name (StoredObject.read Pod.decoder))
      (.podUnreadable o.namespace_ name)
    match pod.containers.head?.bind (·.image) with
    | some image => return image
    | none =>
      log "WARN" [("message", "Own pod has no container image"), ("pod", name)]
      throw (.podWithoutImage name)

/-- The webhook that options ask for, if certificate and key can be had. -/
def start (o : Options) (tls : (certificate key : String) → Bool) : Attempt Webhook := do
  let image ← match o.image with
    | some image => pure image
    | none => ownImage o
  let clusterId ← ask Client.clusterId .noClusterId
  log "INFO" [("cluster_id", clusterId), ("image", image), ("message", "Resolved webhook identity")]
  if !tls o.tlsCert o.tlsKey then throw (.noTls o.tlsCert)
  return { settings :=
             { image, clusterId, driver := o.csiDriverName, ownerDepth := o.maxOwnerDepth }
           limit := .ofSeconds o.admissionTimeoutSecs }

/-- The outcome of a start, and its log records. -/
def outcome (o : Options) (tls : (certificate key : String) → Bool) :
    RequestDialogue (Except StartError Webhook × List LogRecord) :=
  (start o tls).run.run []

end Startup
end InjectionWebhook
