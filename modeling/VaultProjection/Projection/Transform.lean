import VaultProjection.Base64
import VaultProjection.Text.Basic
/-!
Steps that a plain secret goes through before it is written, and pipelines of them.
-/

namespace VaultProjection

/-- One step on the bytes of a value. -/
inductive Transform where
  | trim
  | base64Encode
  | base64Decode
  deriving DecidableEq, Repr

namespace Transform

def all : List Transform := [.trim, .base64Encode, .base64Decode]

def name : Transform → String
  | .trim => "trim"
  | .base64Encode => "base64encode"
  | .base64Decode => "base64decode"

/-- The step of a name; blanks around it and the case of its letters do not matter. -/
def ofName? (s : String) : Option Transform :=
  all.find? fun t => t.name == Text.lowered (Text.trimmed s)

/-- Reading base64 skips the blanks around the value, and is the only step that can fail. -/
def apply (t : Transform) (value : Bytes) : Except Base64.Fault Bytes :=
  match t with
  | .trim => .ok value.trim
  | .base64Encode => .ok (Base64.encode value)
  | .base64Decode => Base64.decode value.trim

end Transform

/-- Steps in order. -/
abbrev Pipeline := List Transform

namespace Pipeline

/-- The pipeline of some names, or the first name that is no step. -/
def ofNames (names : List String) : Except String Pipeline :=
  names.mapM fun s => match Transform.ofName? s with
    | some t => .ok t
    | none => .error s

/-- The value after all steps, or the step that failed and why. -/
def apply (p : Pipeline) (value : Bytes) : Except (Transform × Base64.Fault) Bytes :=
  p.foldlM (fun v t => (t.apply v).mapError (t, ·)) value

end Pipeline

end VaultProjection
