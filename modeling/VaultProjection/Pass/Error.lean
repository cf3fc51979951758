import VaultProjection.Cluster.Error
import VaultProjection.Projection.Error
/-!
How a pass over a key fails.
-/

namespace VaultProjection

inductive PassError where
  /-- The key is no namespace and name. -/
  | invalidKey (key : String)
  /-- The declaring resource lacks metadata that its outputs would refer to. -/
  | missingMetadata (field : String)
  /-- The name of an output is taken by an object of somebody else. -/
  | notOwned (output : Cluster.ObjectName) (owner : String)
  | outputMissing (output : Cluster.ObjectName)
  | projection (error : ProjectionError)
  | cluster (error : Cluster.ClusterError)
  deriving DecidableEq, Repr

namespace PassError

def message : PassError → String
  | .invalidKey key => "invalid work key '" ++ key ++ "', expected namespace/name"
  | .missingMetadata field => "AzureKeyVaultSecret has no metadata." ++ field
  | .notOwned o owner =>
    o.text ++ " already exists and is not managed by AzureKeyVaultSecret " ++ owner
  | .outputMissing o => o.text ++ " does not exist yet"
  | .projection e => e.message
  | .cluster e => e.message

/-- The resource itself is at fault, so trying again will not help. -/
def isMalformed : PassError → Bool
  | .invalidKey _ | .missingMetadata _ => true
  | .projection e => e.isMalformed
  | .notOwned .. | .outputMissing _ | .cluster _ => false

/-- The name of an output is taken. -/
def isConflict : PassError → Bool
  | .notOwned .. => true
  | _ => false

end PassError

end VaultProjection
