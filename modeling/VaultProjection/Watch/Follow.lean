import VaultProjection.Cluster.Call
import VaultProjection.Watch.Cache
/-!
Following the objects of a kind: first a list of all, then a stream of what changes after it. A
stream that ends is opened again behind the last change seen; one that the API server calls too old
leads to a new list. After a failure nothing is tried for a while, which grows with the failures in
a row.
-/

namespace VaultProjection.Watch

open Json (Raw)

/-! ## What is followed -/

structure Subject where
  kind : Kube.Kind
  /-- All namespaces if it is absent. -/
  ns : Option String
  /-- A label and the value that it must have. -/
  label : Option (String × String)
  /-- Nothing but the metadata of the objects. -/
  metadataOnly : Bool
  deriving DecidableEq, Repr

namespace Subject

/-- The declaring resources, of one namespace or of all. -/
def declaring (ns : Option String) : Subject := ⟨.declaring, ns, none, false⟩

/-- The metadata of the outputs of a kind that the controller created. -/
def outputs (k : OutputKind) (ns : Option String) : Subject :=
  ⟨k.kind, ns, some (managedByLabel, controllerName), true⟩

def path (s : Subject) : String :=
  match s.ns with
  | some ns => Cluster.collectionPath s.kind ns
  | none => Cluster.apiPath s.kind ++ "/" ++ Cluster.plural s.kind

def labelQuery (s : Subject) : List (String × String) :=
  match s.label with
  | some (k, v) => [("labelSelector", k ++ "=" ++ v)]
  | none => []

/-- The form in which only metadata is sent. -/
def accept (s : Subject) (form : String) : Option String :=
  if s.metadataOnly then some ("application/json;as=" ++ form ++ ";g=meta.k8s.io;v=v1") else none

/-- The seconds for which a stream is asked to last. -/
def streamSeconds : Nat := 290

/-- How many objects a page of a list has at most. -/
def pageSize : Nat := 500

def listRequest? (s : Subject) : Option Web.Request :=
  (Web.Target.read? (s.path ++ "?") (("limit", toString pageSize) :: s.labelQuery)).map fun t =>
    ⟨.get, t, none, s.accept "PartialObjectMetadataList", none⟩

def streamRequest? (s : Subject) (version : String) : Option Web.Request :=
  let query := [("watch", "true"), ("timeoutSeconds", toString streamSeconds),
    ("allowWatchBookmarks", "true"), ("resourceVersion", version)] ++ s.labelQuery
  (Web.Target.read? (s.path ++ "?") query).map fun t =>
    ⟨.get, t, none, s.accept "PartialObjectMetadata", none⟩

end Subject

/-! ## Failures -/

inductive Failure where
  | list (cause : Cluster.Failure)
  | stream (cause : Cluster.Failure)
  /-- The API server says so within the stream. -/
  | reported (response : Cluster.ErrorResponse)
  /-- Something in the stream cannot be understood. -/
  | garbled
  /-- There is nothing to go on from. -/
  | noVersion
  deriving DecidableEq, Repr

def Failure.text : Failure → String
  | .list c => "failed to perform initial object list: " ++ c.text
  | .stream c => "failed to start watching object: " ++ c.text
  | .reported r => "error returned by apiserver during watch: " ++ r.message ++ ": " ++ r.reason
  | .garbled => "watch stream failed: " ++ Cluster.Failure.connection.text
  | .noVersion => "no metadata.resourceVersion in watch result (does resource support watch?)"

/-! ## What arrives -/

/-- How an object is read, and where its metadata is. -/
structure Form (α : Type) where
  read : Raw → Option α
  metadata : α → Kube.ObjectMeta

namespace Form

/-- Declaring resources in full. -/
def resources : Form Resource := ⟨Resource.read?, (·.metadata)⟩

/-- Nothing but metadata; an object may have none. -/
def metadataOnly : Form Kube.ObjectMeta :=
  ⟨fun r => do
    let ms ← r.members?
    some ((← Raw.last? ms "metadata" Kube.ObjectMeta.read?).getD .empty), id⟩

variable {α : Type}

def version (f : Form α) (a : α) : String := (f.metadata a).resourceVersion.getD ""

end Form

/-- A complete list and the version that it shows. -/
structure Listing (α : Type) where
  items : List α
  version : Option String

/-- The list in an answer; one object that cannot be read spoils all of it. -/
def Listing.read? {α : Type} (f : Form α) (r : Raw) : Option (Listing α) := do
  let ms ← r.members?
  let items ← Raw.last? ms "items" (Raw.list? f.read)
  let version ← Raw.present? ms "metadata" fun m => do
    Raw.present? (← m.members?) "resourceVersion" Raw.str?
  some ⟨← items, version.join⟩

/-- What a stream gives: a change, a failure or its end. -/
inductive Incoming (α : Type) where
  | applied (object : α) (version : String)
  | deleted (object : α) (version : String)
  | failed (response : Cluster.ErrorResponse)
  | garbled
  | ended

/-- What a line of a stream says. -/
def Incoming.ofJson {α : Type} (f : Form α) (j : Json) : Incoming α :=
  let object := j.get "object"
  let change (make : α → String → Incoming α) : Incoming α :=
    match f.read (.ofJson object) with
    | some a => make a (f.version a)
    | none => .garbled
  match (j.get "type").str? with
  | some "ADDED" | some "MODIFIED" => change .applied
  | some "DELETED" => change .deleted
  | some "ERROR" =>
    match Cluster.ErrorResponse.ofJson? object with
    | some r => .failed r
    | none => .garbled
  | _ => .garbled

/-! ## Phases -/

/-- How far following has come. Streams are told apart by numbers. -/
inductive Phase (α : Type) where
  | start
  | listing
  /-- The rest of a list is being shown. -/
  | showing (items : List α) (version : String)
  | listed (version : String)
  | streaming (version : String) (stream : Nat)

/-- What follows from a phase: something to say, or something to ask for. -/
inductive Next (α : Type) where
  | say (notice : Notice α) (phase : Phase α)
  | list
  | open (version : String)
  | receive (stream : Nat)

namespace Phase

variable {α : Type}

def next : Phase α → Next α
  | .start => .say .init .listing
  | .listing => .list
  | .showing (a :: rest) version => .say (.initApply a) (.showing rest version)
  | .showing [] version => .say .initDone (.listed version)
  | .listed version => .open version
  | .streaming _ stream => .receive stream

/-- After the answer to a list. -/
def afterList (answer : Except Cluster.Failure (Listing α)) : Option Failure × Phase α :=
  match answer with
  | .error c => (some (.list c), .start)
  | .ok l =>
    match nonempty? l.version with
    | some v => (none, .showing l.items v)
    | none => (some .noVersion, .start)

/-- After an attempt to open a stream. -/
def afterOpen (version : String) (answer : Except Cluster.Failure Nat) :
    Option Failure × Phase α :=
  match answer with
  | .error c => (some (.stream c), .listed version)
  | .ok stream => (none, .streaming version stream)

/-- After something came out of a stream: something to say, a failure or neither. -/
def afterIncoming (version : String) (stream : Nat) :
    Incoming α → Option (Except Failure (Notice α)) × Phase α
  | .applied a v =>
    if v.isEmpty then (some (.error .noVersion), .start)
    else (some (.ok (.apply a)), .streaming v stream)
  | .deleted a v =>
    if v.isEmpty then (some (.error .noVersion), .start)
    else (some (.ok (.delete a)), .streaming v stream)
  | .failed r =>
    (some (.error (.reported r)), if r.code = 410 then .start else .streaming version stream)
  | .garbled => (some (.error .garbled), .streaming version stream)
  | .ended => (none, .listed version)

end Phase

/-! ## Pauses -/

/-- How long to pause after a failure. -/
structure Pause where
  /-- Failures in a row. -/
  failures : Nat
  /-- When the last pause began. -/
  since : Duration
  /-- Nothing is done before. -/
  till : Option Duration
  deriving DecidableEq, Repr

namespace Pause

def none : Pause := ⟨0, .zero, .none⟩

/-- Twice as long after each failure, from 800 milliseconds to half a minute. -/
def length (failures : Nat) : Duration :=
  .ofMillis (Nat.min (800 * Nat.pow 2 (Nat.min failures 10)) 30000)

def afterFailure (p : Pause) (now : Duration) : Pause :=
  ⟨p.failures + 1, now, some ⟨now.nanos + (length p.failures).nanos⟩⟩

/-- Two quiet minutes make a new start. -/
def afterSuccess (p : Pause) (now : Duration) : Pause :=
  if p.since.nanos + (Duration.ofSeconds 120).nanos < now.nanos then none else p

end Pause

end VaultProjection.Watch
