import VaultProjection.Json.Decode
import VaultProjection.Timestamp
/-!
Metadata of objects in the cluster, with the references to their owners, and its JSON form. Fields
that are not set are left out; members that are no fields are passed over when metadata is read.
-/

namespace VaultProjection.Kube

/-! ## Types -/

/-- A reference from an object to one that owns it. -/
structure OwnerReference where
  apiVersion : String
  blockOwnerDeletion : Option Bool
  controller : Option Bool
  kind : String
  name : String
  uid : String
  deriving DecidableEq, Repr

/-- Which fields of an object a writer manages. -/
structure ManagedFields where
  apiVersion : Option String
  fieldsType : Option String
  fieldsV1 : Option Json
  manager : Option String
  operation : Option String
  subresource : Option String
  time : Option Timestamp
  deriving BEq, Repr

structure ObjectMeta where
  annotations : Option (Entries String)
  creationTimestamp : Option Timestamp
  deletionGracePeriodSeconds : Option Int
  deletionTimestamp : Option Timestamp
  finalizers : Option (List String)
  generateName : Option String
  generation : Option Int
  labels : Option (Entries String)
  managedFields : Option (List ManagedFields)
  name : Option String
  ns : Option String
  ownerReferences : Option (List OwnerReference)
  resourceVersion : Option String
  selfLink : Option String
  uid : Option String
  deriving BEq, Repr

/-- Metadata with nothing set. -/
def ObjectMeta.empty : ObjectMeta :=
  ⟨none, none, none, none, none, none, none, none, none, none, none, none, none, none, none⟩

/-- A reference to an object, as events carry it. -/
structure ObjectReference where
  apiVersion : Option String
  fieldPath : Option String
  kind : Option String
  name : Option String
  ns : Option String
  resourceVersion : Option String
  uid : Option String
  deriving DecidableEq, Repr

/-! ## JSON form -/

open Json (Raw)

/-- A point in time, of which only whole seconds are written. -/
def timeJson (t : Timestamp) : Json := .str t.toSeconds.text

def time? (r : Raw) : Option Timestamp :=
  r.str?.bind (Timestamp.read? .lenient)

def textMap (m : Entries String) : Json := .obj (m.mapValues .str)

/-- A map from names to texts. -/
def texts? : Raw → Option (Entries String) := Raw.entries? Raw.str?

namespace OwnerReference

def toJson (r : OwnerReference) : Json :=
  .ofPresent [("apiVersion", some (.str r.apiVersion)),
    ("blockOwnerDeletion", r.blockOwnerDeletion.map .bool), ("controller", r.controller.map .bool),
    ("kind", some (.str r.kind)), ("name", some (.str r.name)), ("uid", some (.str r.uid))]

/-- An absent text is empty. -/
def read? (r : Raw) : Option OwnerReference := do
  let ms ← r.members?
  let text (name : String) := (Raw.present? ms name Raw.str?).map (·.getD "")
  some ⟨← text "apiVersion", ← Raw.present? ms "blockOwnerDeletion" Raw.bool?,
    ← Raw.present? ms "controller" Raw.bool?, ← text "kind", ← text "name", ← text "uid"⟩

end OwnerReference

namespace ManagedFields

def toJson (m : ManagedFields) : Json :=
  .ofPresent [("apiVersion", m.apiVersion.map .str), ("fieldsType", m.fieldsType.map .str),
    ("fieldsV1", m.fieldsV1), ("manager", m.manager.map .str), ("operation", m.operation.map .str),
    ("subresource", m.subresource.map .str), ("time", m.time.map timeJson)]

/-- How deep containers may be nested in what is free of form: less than in a whole document by the
four that stand around it. -/
def fieldsDepth : Nat := 123

def read? (r : Raw) : Option ManagedFields := do
  let ms ← r.members?
  let text (name : String) := Raw.present? ms name Raw.str?
  some ⟨← text "apiVersion", ← text "fieldsType",
    ← Raw.present? ms "fieldsV1" (Raw.value? fieldsDepth), ← text "manager", ← text "operation",
    ← text "subresource", ← Raw.present? ms "time" time?⟩

end ManagedFields

namespace ObjectMeta

def toJson (m : ObjectMeta) : Json :=
  .ofPresent [("annotations", m.annotations.map textMap),
    ("creationTimestamp", m.creationTimestamp.map timeJson),
    ("deletionGracePeriodSeconds", m.deletionGracePeriodSeconds.map .int),
    ("deletionTimestamp", m.deletionTimestamp.map timeJson),
    ("finalizers", m.finalizers.map fun fs => .arr (fs.map .str)),
    ("generateName", m.generateName.map .str), ("generation", m.generation.map .int),
    ("labels", m.labels.map textMap),
    ("managedFields", m.managedFields.map fun fs => .arr (fs.map ManagedFields.toJson)),
    ("name", m.name.map .str), ("namespace", m.ns.map .str),
    ("ownerReferences", m.ownerReferences.map fun rs => .arr (rs.map OwnerReference.toJson)),
    ("resourceVersion", m.resourceVersion.map .str), ("selfLink", m.selfLink.map .str),
    ("uid", m.uid.map .str)]

def read? (r : Raw) : Option ObjectMeta := do
  let ms ← r.members?
  let text (name : String) := Raw.present? ms name Raw.str?
  let number (name : String) := Raw.present? ms name Raw.int64?
  let time (name : String) := Raw.present? ms name time?
  some {
    annotations := ← Raw.present? ms "annotations" texts?
    creationTimestamp := ← time "creationTimestamp"
    deletionGracePeriodSeconds := ← number "deletionGracePeriodSeconds"
    deletionTimestamp := ← time "deletionTimestamp"
    finalizers := ← Raw.present? ms "finalizers" (Raw.list? Raw.str?)
    generateName := ← text "generateName"
    generation := ← number "generation"
    labels := ← Raw.present? ms "labels" texts?
    managedFields := ← Raw.present? ms "managedFields" (Raw.list? ManagedFields.read?)
    name := ← text "name"
    ns := ← text "namespace"
    ownerReferences := ← Raw.present? ms "ownerReferences" (Raw.list? OwnerReference.read?)
    resourceVersion := ← text "resourceVersion"
    selfLink := ← text "selfLink"
    uid := ← text "uid" }

def ofJson? (j : Json) : Option ObjectMeta := read? (.ofJson j)

end ObjectMeta

namespace ObjectReference

def toJson (r : ObjectReference) : Json :=
  .ofPresent [("apiVersion", r.apiVersion.map .str), ("fieldPath", r.fieldPath.map .str),
    ("kind", r.kind.map .str), ("name", r.name.map .str), ("namespace", r.ns.map .str),
    ("resourceVersion", r.resourceVersion.map .str), ("uid", r.uid.map .str)]

def read? (r : Raw) : Option ObjectReference := do
  let ms ← r.members?
  let text (name : String) := Raw.present? ms name Raw.str?
  some ⟨← text "apiVersion", ← text "fieldPath", ← text "kind", ← text "name",
    ← text "namespace", ← text "resourceVersion", ← text "uid"⟩

def ofJson? (j : Json) : Option ObjectReference := read? (.ofJson j)

end ObjectReference

end VaultProjection.Kube
