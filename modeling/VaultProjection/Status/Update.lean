import VaultProjection.Digest
import VaultProjection.Resource.Basic
/-!
Changes of a resource's status. The status has one group of fields for each kind of output, and a
change touches the fields of its own group only; noting an output also notes the time.
-/

namespace VaultProjection

inductive StatusUpdate where
  /-- An output of this name has this content. -/
  | record (kind : OutputKind) (name : String) (digest : Digest kind)
  /-- An output was created anew, so what was noted of its content no longer holds. -/
  | invalidate (kind : OutputKind)
  deriving DecidableEq, Repr

namespace Status

/-- The name that is noted for a kind of output. -/
def outputName (s : Status) : OutputKind → Option String
  | .secret => s.secretName
  | .configMap => s.configMapName

/-- The content that is noted for a kind of output. -/
def outputHash (s : Status) : OutputKind → Option String
  | .secret => s.secretHash
  | .configMap => s.configMapHash

/-- The same but for the time of the last update. -/
def sameGroups (a b : Status) : Bool :=
  a.secretName == b.secretName && a.secretHash == b.secretHash &&
    a.configMapName == b.configMapName && a.configMapHash == b.configMapHash

end Status

namespace StatusUpdate

/-- The status after a change at a time. -/
def apply (u : StatusUpdate) (s : Status) (now : String) : Status :=
  match u with
  | .record .secret name d =>
    { s with secretName := some name, secretHash := some d.hex, lastAzureUpdate := some now }
  | .record .configMap name d =>
    { s with configMapName := some name, configMapHash := some d.hex, lastAzureUpdate := some now }
  | .invalidate .secret => { s with secretHash := none }
  | .invalidate .configMap => { s with configMapHash := none }

/-- How the change shows in debug output. -/
def debugText : StatusUpdate → String
  | .record k name d => k.kind.name ++ " \x7b name: " ++ Text.quoted name ++ ", hash: "
    ++ d.debugText ++ " \x7d"
  | .invalidate k => "Invalidate" ++ k.kind.name

end StatusUpdate

end VaultProjection
