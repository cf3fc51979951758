import VaultProjection.Json.Basic
/-!
Merge patches of JSON values. A patch that is an object changes the members that it names, and
removes those that it names with `null`; any other patch takes the place of the value.
-/

namespace VaultProjection.Json

mutual
/-- The value after a patch. -/
def merged (target : Json) (patch : Json) : Json :=
  match patch with
  | .obj ms => .obj (mergedMembers (target.obj?.getD []) ms)
  | other => other
termination_by structural patch

/-- The members after the changes of a patch. -/
def mergedMembers (es : Entries Json) (changes : List (String × Json)) : Entries Json :=
  match changes with
  | [] => es
  | (k, change) :: rest =>
    if change.isNull then mergedMembers (es.erase k) rest
    else mergedMembers (es.insert k (merged ((es.get? k).getD .null) change)) rest
termination_by structural changes
end

end VaultProjection.Json
