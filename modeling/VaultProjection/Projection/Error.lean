import VaultProjection.Projection.Transform
import VaultProjection.Vault.Error
/-!
Why a vault object cannot be turned into the data of an output. Every cause but a failed read lies
in the resource or in the object's content, so trying again does not help.
-/

namespace VaultProjection

/-- How the document of a multi-key secret is written. -/
inductive DocumentFormat where
  | json
  | yaml
  deriving DecidableEq, Repr

namespace DocumentFormat

def name : DocumentFormat → String
  | .json => "JSON"
  | .yaml => "YAML"

def contentType : DocumentFormat → String
  | .json => "application/x-json"
  | .yaml => "application/x-yaml"

end DocumentFormat

/-- What is wrong with a document. -/
inductive DocumentFault where
  /-- It does not follow the format. -/
  | unreadable
  /-- It is a value of another shape. -/
  | noMap
  deriving DecidableEq, Repr

/-- The words of a parser differ from one to the next, so a sign stands for them. -/
def DocumentFault.message : DocumentFault → String
  | .unreadable => "<parser>"
  | .noMap => "top level is not a key/value map"

inductive ProjectionError where
  | unknownObjectKind (text : String)
  | missingDataKey (output : OutputKind) (kind : Vault.ObjectKind)
  | unknownTransform (text : String)
  | transformFailed (step : Transform) (reason : String)
  | certificateFormat (contentType : String)
  | invalidPem (reason : String)
  | documentFormat (contentType : String)
  | invalidDocument (format : DocumentFormat) (fault : DocumentFault)
  /-- The value of this object is no text, so a ConfigMap cannot hold it. -/
  | noText (object : String)
  | vault (error : Vault.ReadError)
  deriving DecidableEq, Repr

namespace ProjectionError

def message : ProjectionError → String
  | .unknownObjectKind s => "unsupported vault object type '" ++ s ++ "'"
  | .missingDataKey output kind =>
    output.member ++ " output needs a dataKey for vault object type '" ++ kind.name ++ "'"
  | .unknownTransform s =>
    "unsupported transform '" ++ s ++ "', expected one of trim, base64encode, base64decode"
  | .transformFailed step reason => "transform '" ++ step.name ++ "' failed: " ++ reason
  | .certificateFormat s => "certificate content type '" ++ s
    ++ "' is not supported, only PEM certificates can be projected"
  | .invalidPem reason => "invalid PEM bundle: " ++ reason
  | .documentFormat s => "unsupported multi-key content type '" ++ s
    ++ "', expected application/x-json or application/x-yaml"
  | .invalidDocument format fault =>
    "multi-key secret is not a valid " ++ format.name ++ " document: " ++ fault.message
  | .noText object =>
    "value for '" ++ object ++ "' is not valid UTF-8 and cannot be stored in a ConfigMap"
  | .vault e => e.message

/-- The cause lies in the resource or the object's content, not in the read. -/
def isMalformed : ProjectionError → Bool
  | .vault _ => false
  | _ => true

end ProjectionError

end VaultProjection
