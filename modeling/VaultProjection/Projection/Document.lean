import VaultProjection.Json.Read
import VaultProjection.Json.Write
import VaultProjection.Projection.Error
import VaultProjection.Yaml.Document
/-!
Multi-key secrets: documents whose top-level members become the entries of an output. A member that
is a string is taken as it is, any other value as compact JSON.
-/

namespace VaultProjection.Document

/-- The format that a content type names, JSON if it names none; a foreign one is given back. -/
def format (contentType : Option String) : Except String DocumentFormat :=
  match nonempty? (contentType.map Text.trimmed) with
  | none => .ok .json
  | some s =>
    if Text.sameIgnoringCase s DocumentFormat.json.contentType then .ok .json
    else if Text.sameIgnoringCase s DocumentFormat.yaml.contentType then .ok .yaml
    else .error s

def read? : DocumentFormat → String → Option Json
  | .json, s => Json.read? s
  | .yaml, s => Yaml.read? s

/-- The text of a member. -/
def memberText : Json → String
  | .str s => s
  | j => j.compact

/-- The members of a document as text. -/
def entries (format : DocumentFormat) (text : String) : Except DocumentFault (Entries String) :=
  match read? format text with
  | none => .error .unreadable
  | some (.obj ms) => .ok (Entries.mapValues memberText ms)
  | some _ => .error .noMap

end VaultProjection.Document
