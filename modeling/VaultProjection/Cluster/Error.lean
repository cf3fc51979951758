import VaultProjection.Kube.Output
import VaultProjection.Text.Quoted
/-!
Failed calls to the cluster: a missing object, a write that lost against another one, an object that
cannot be written at all, and whatever else the API server or the connection reports.
-/

namespace VaultProjection.Cluster

/-- An object of the cluster by kind, namespace and name. -/
structure ObjectName where
  kind : Kube.Kind
  ns : String
  name : String
  deriving DecidableEq, Repr

def ObjectName.text (o : ObjectName) : String := o.kind.name ++ " " ++ o.ns ++ "/" ++ o.name

/-- What the API server answers instead of an object. -/
structure ErrorResponse where
  status : String
  message : String
  reason : String
  code : Nat
  deriving DecidableEq, Repr

namespace ErrorResponse

def debugText (r : ErrorResponse) : String :=
  "ErrorResponse \x7b status: " ++ Text.quoted r.status ++ ", message: " ++ Text.quoted r.message
    ++ ", reason: " ++ Text.quoted r.reason ++ ", code: " ++ toString r.code ++ " \x7d"

def text (r : ErrorResponse) : String :=
  "ApiError: " ++ r.message ++ ": " ++ r.reason ++ " (" ++ r.debugText ++ ")"

end ErrorResponse

inductive ClusterError where
  | notFound (object : ObjectName)
  /-- Another writer was faster. -/
  | conflict (object : ObjectName) (message : String)
  /-- The object has no such metadata, so there is nowhere to write it. -/
  | missingMetadata (field : String)
  | api (response : ErrorResponse)
  /-- There was no answer that could be understood. -/
  | connection
  deriving DecidableEq, Repr

namespace ClusterError

/-- The error of an answer about an object: 404 and 409 have meanings of their own. -/
def ofResponse (object : ObjectName) (r : ErrorResponse) : ClusterError :=
  if r.code = 404 then .notFound object
  else if r.code = 409 then .conflict object r.message
  else .api r

def isNotFound : ClusterError → Bool
  | .notFound _ => true
  | _ => false

def isConflict : ClusterError → Bool
  | .conflict .. => true
  | _ => false

def message : ClusterError → String
  | .notFound o => o.text ++ " not found"
  | .conflict o m => "conflict writing " ++ o.text ++ ": " ++ m
  | .missingMetadata field => "object is missing metadata." ++ field
  | .api r => "Kubernetes API error: " ++ r.text
  | .connection => "Kubernetes API error: <client>"

end ClusterError

end VaultProjection.Cluster
