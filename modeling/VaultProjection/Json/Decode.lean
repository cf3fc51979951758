import VaultProjection.Json.Raw
/-!
Reading typed values out of JSON documents. A reader gives nothing when the document has another
shape.

Two kinds of records exist. An *open* record is an object; each occurrence of a field in it must be
readable, and the last one counts. A *closed* record names each field at most once, and may also be
an array that lists its fields in order. Members that are no fields are passed over in both.
-/

namespace VaultProjection.Json.Raw

variable {α : Type}

/-! ## Containers -/

/-- A `null` is read as none; any other value must be readable. -/
def optional? (r : Raw) (read : Raw → Option α) : Option (Option α) :=
  if r.isNull then some none else (read r).map some

def list? (read : Raw → Option α) : Raw → Option (List α)
  | .items rs => rs.mapM read
  | _ => none

/-- The members of an object by name. -/
def members? : Raw → Option (List (String × Raw))
  | .members ms => ms.mapM fun (k, r) => k.value?.map (·, r)
  | _ => none

/-- A map from names to values; of two with one name the later one stays. -/
def entries? (read : Raw → Option α) (r : Raw) : Option (Entries α) := do
  let ms ← (← r.members?).mapM fun (k, r) => (read r).map (k, ·)
  some (Entries.ofList ms)

/-! ## Open records -/

/-- The last of the values with a name, each of which must be readable. -/
def last? (members : List (String × Raw)) (name : String) (read : Raw → Option α) :
    Option (Option α) := do
  let values ← (members.filter (·.1 == name)).mapM fun (_, r) => read r
  some values.getLast?

/-- A field that may be absent or `null`. -/
def present? (members : List (String × Raw)) (name : String) (read : Raw → Option α) :
    Option (Option α) :=
  (last? members name (optional? · read)).map (·.join)

/-- Every member with a name is a certain text. -/
def hasOnly (members : List (String × Raw)) (name value : String) : Bool :=
  (members.filter (·.1 == name)).all fun (_, r) => r.str? == some value

/-! ## Closed records -/

/-- The fields of a closed record by name: members of an object, or items of an array that has at
least `least` of them and no more than there are names. -/
def fields? (r : Raw) (names : List String) (least : Nat := 0) : Option (List (String × Raw)) :=
  match r with
  | .items rs =>
    if least ≤ rs.length ∧ rs.length ≤ names.length then some (names.zip rs) else none
  | r => do
    let fields := (← r.members?).filter (names.contains ·.1)
    if (fields.map (·.1)).Nodup then some fields else none

/-- A field that must be there. -/
def required? (fields : List (String × Raw)) (name : String) (read : Raw → Option α) : Option α :=
  (fields.lookup name).bind read

/-- A field that may be absent or `null`. -/
def maybe? (fields : List (String × Raw)) (name : String) (read : Raw → Option α) :
    Option (Option α) :=
  match fields.lookup name with
  | none => some none
  | some r => r.optional? read

/-- A field that is `fallback` when it is absent. -/
def defaulted? (fields : List (String × Raw)) (name : String) (fallback : α)
    (read : Raw → Option α) : Option α :=
  match fields.lookup name with
  | none => some fallback
  | some r => read r

end VaultProjection.Json.Raw
