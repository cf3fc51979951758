import VaultProjection.Kube.Output
import VaultProjection.Sha256
import VaultProjection.Text.Quoted
/-!
Digests of output payloads. What is hashed is the *preimage*: a tag for the kind of payload, then
the entries in the order of their keys, each key and value with its length in front. The tag keeps
Secrets and ConfigMaps apart, the lengths keep the ends of entries fixed.
-/

namespace VaultProjection

/-- What the preimages of a kind of output start with. -/
def OutputKind.tag : OutputKind → Bytes
  | .secret => Bytes.ofText "secret\x00"
  | .configMap => Bytes.ofText "configmap\x00"

namespace Digest

/-- Bytes with their number in front. -/
def framed (b : Bytes) : Bytes := Bytes.ofUInt64 b.length ++ b

def entry (key : String) (value : Bytes) : Bytes := framed (Bytes.ofText key) ++ framed value

/-- The bytes that are hashed, whatever the order of the entries. -/
def preimage (kind : OutputKind) (entries : List (String × Bytes)) : Bytes :=
  kind.tag ++ (Entries.ofList entries).flatMap fun (k, v) => entry k v

end Digest

/-- A digest, as 64 hexadecimal digits. -/
structure Digest (kind : OutputKind) where
  hex : String
  deriving DecidableEq, Repr

namespace Digest

variable {kind : OutputKind}

def ofEntries (kind : OutputKind) (entries : List (String × Bytes)) : Digest kind :=
  ⟨Bytes.toHex (Sha256.hash (preimage kind entries))⟩

/-- The digest of a payload. -/
def ofPayload (p : kind.Payload) : Digest kind := ofEntries kind (OutputKind.bytes p)

/-- The text that a status recorded is this digest. -/
def matches? (d : Digest kind) (recorded : Option String) : Bool := recorded == some d.hex

/-- How the digest shows in debug output. -/
def debugText (d : Digest kind) : String := "ContentDigest(" ++ Text.quoted d.hex ++ ")"

end Digest

end VaultProjection
