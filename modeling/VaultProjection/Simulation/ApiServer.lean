import VaultProjection.Cluster.Recorder
import VaultProjection.Json.Merge
import VaultProjection.Watch.Follow
/-!
An API server in memory. It counts its changes; the count is the version of the object that changed
last. Lists show the count, and a stream begins with the changes after the version it is asked for.

Requests may be told to fail. Events are noted and answered, and not kept.
-/

namespace VaultProjection.Simulation

open Cluster (ObjectName)

/-! ## Addresses -/

/-- What a path stands for. -/
inductive Spot where
  | collection (kind : Kube.Kind) (ns : Option String)
  | object (name : ObjectName)
  | status (name : ObjectName)
  | events
  | nowhere

namespace Spot

/-- What the words behind the group stand for. -/
def ofWords (kinds : List Kube.Kind) (words : List String) : Spot :=
  let among (word : String) (f : Kube.Kind → Spot) : Spot :=
    match kinds.find? (Cluster.plural · = word) with
    | some k => f k
    | none => .nowhere
  match words with
  | [word] => among word (.collection · none)
  | ["namespaces", ns, word] => among word (.collection · (some ns))
  | ["namespaces", ns, word, name] => among word fun k => .object ⟨k, ns, name⟩
  | ["namespaces", ns, word, name, "status"] => among word fun k => .status ⟨k, ns, name⟩
  | _ => .nowhere

def ofPath (path : String) : Spot :=
  match (Text.pieces '/' path.toList).map String.ofList with
  | "" :: "apis" :: "events.k8s.io" :: _ => .events
  | "" :: "apis" :: _ :: _ :: words => ofWords [.declaring] words
  | "" :: "api" :: "v1" :: words => ofWords [.secret, .configMap] words
  | _ => .nowhere

def kind? : Spot → Option Kube.Kind
  | .collection k _ => some k
  | .object o | .status o => some o.kind
  | .events | .nowhere => none

end Spot

/-! ## Changes and streams -/

inductive Action where
  | added
  | modified
  | deleted
  deriving DecidableEq, Repr

def Action.name : Action → String
  | .added => "ADDED"
  | .modified => "MODIFIED"
  | .deleted => "DELETED"

/-- A change with the object as it is after it, or was when it was deleted. -/
structure Entry where
  version : Nat
  name : ObjectName
  action : Action
  object : Json

/-- A line of a stream. -/
def line (type : String) (object : Json) : Json :=
  .ofMembers [("type", .str type), ("object", object)]

def Entry.line (e : Entry) : Json := Simulation.line e.action.name e.object

/-- Which objects are asked for. -/
structure Selection where
  kind : Kube.Kind
  ns : Option String
  label : Option (String × String)

namespace Selection

def ofRequest (kind : Kube.Kind) (ns : Option String) (r : Web.Request) : Selection :=
  ⟨kind, ns, ((r.target.pairs.lookup "labelSelector").bind (Text.cut? '=' ·.toList)).map
    fun (k, v) => (String.ofList k, String.ofList v)⟩

def picks (s : Selection) (o : ObjectName) (object : Json) : Bool :=
  o.kind = s.kind && s.ns.all (· = o.ns) && s.label.all fun (k, v) =>
    (((object.get "metadata").get "labels").get k).str? == some v

end Selection

structure OpenStream where
  number : Nat
  selection : Selection
  /-- The lines that nobody has read yet. -/
  lines : List Json
  /-- Nothing comes after these lines. -/
  ended : Bool

/-! ## Failures -/

/-- What a request does to a kind of objects. -/
inductive Access where
  | get
  | post
  | put
  | patch
  | list
  | watch
  deriving DecidableEq, Repr

/-- Failures that were ordered in advance. -/
structure Outage where
  access : Access
  kind : Kube.Kind
  code : Nat
  times : Nat

/-- The account of a failure. -/
def statusJson (code : Nat) (message : String) : Json :=
  .ofMembers [("kind", .str "Status"), ("apiVersion", .str "v1"), ("status", .str "Failure"),
    ("message", .str message), ("reason", .str "Reason"), ("code", .int code)]

def refusal (code : Nat) (message : String) : Web.Response :=
  ⟨code, (statusJson code message).compact⟩

/-! ## The server -/

structure ApiServer where
  version : Nat
  declaring : Entries Json
  secrets : Entries Json
  configMaps : Entries Json
  /-- All changes, the latest first. -/
  log : List Entry
  outages : List Outage
  streams : List OpenStream
  /-- How many streams there were. -/
  opened : Nat
  /-- The lists and streams that were asked for, and the events that were sent, since anybody last
  looked. -/
  asked : Array Web.Request
  events : Array Json

namespace ApiServer

def new : ApiServer := ⟨0, [], [], [], [], [], [], 0, #[], #[]⟩

def objects (s : ApiServer) : Kube.Kind → Entries Json
  | .declaring => s.declaring
  | .secret => s.secrets
  | .configMap => s.configMaps

def setObjects (s : ApiServer) (kind : Kube.Kind) (objects : Entries Json) : ApiServer :=
  match kind with
  | .declaring => { s with declaring := objects }
  | .secret => { s with secrets := objects }
  | .configMap => { s with configMaps := objects }

def get? (s : ApiServer) (o : ObjectName) : Option Json :=
  (s.objects o.kind).get? (Key.join o.ns o.name)

/-! ### Changes -/

/-- Gives an object a version. -/
def stamped (object : Json) (version : Nat) : Json :=
  object.merged (.ofMembers
    [("metadata", .ofMembers [("resourceVersion", .str (toString version))])])

/-- Makes a change and tells the streams; the object gets the version of the change. -/
def commit (s : ApiServer) (o : ObjectName) (action : Action) (object : Json) :
    Json × ApiServer :=
  let version := s.version + 1
  let object := stamped object version
  let key := Key.join o.ns o.name
  let kept := s.objects o.kind
  let e : Entry := ⟨version, o, action, object⟩
  let s := s.setObjects o.kind
    (if action = .deleted then kept.erase key else kept.insert key object)
  (object, { s with
    version
    log := e :: s.log
    streams := s.streams.map fun t =>
      if !t.ended && t.selection.picks o object then { t with lines := t.lines ++ [e.line] }
      else t })

/-- Somebody else writes an object; the status of an earlier one stays. -/
def put (s : ApiServer) (o : ObjectName) (object : Json) : ApiServer :=
  match s.get? o with
  | none => (s.commit o .added object).2
  | some old =>
    let status := old.get "status"
    let object :=
      if status.isNull then object
      else .obj ((object.obj?.getD []).insert "status" status)
    (s.commit o .modified object).2

/-- Somebody else deletes an object. -/
def delete (s : ApiServer) (o : ObjectName) : ApiServer :=
  match s.get? o with
  | some old => (s.commit o .deleted old).2
  | none => s

/-! ### Requests for objects -/

def accepted (status : Nat) (object : Json) : Web.Response := ⟨status, object.compact⟩

def create (s : ApiServer) (kind : Kube.Kind) (ns : String) (body : Json) :
    Web.Response × ApiServer :=
  let o : ObjectName := ⟨kind, ns, ((body.get "metadata").get "name").str?.getD ""⟩
  match s.get? o with
  | some _ => (refusal 409 "already exists", s)
  | none =>
    let (object, s) := s.commit o .added body
    (accepted 201 object, s)

def replace (s : ApiServer) (o : ObjectName) (body : Json) : Web.Response × ApiServer :=
  match s.get? o with
  | none => (refusal 404 "not found", s)
  | some _ =>
    let (object, s) := s.commit o .modified body
    (accepted 200 object, s)

/-- Changes the status of an object, if the change was made for its version. -/
def patchStatus (s : ApiServer) (o : ObjectName) (change : Json) : Web.Response × ApiServer :=
  let version (j : Json) := ((j.get "metadata").get "resourceVersion").str?
  match s.get? o with
  | none => (refusal 404 "not found", s)
  | some old =>
    if version change ≠ version old then (refusal 409 "stale", s)
    else
      let change := Json.ofMembers [("status", change.get "status")]
      let (object, s) := s.commit o .modified (old.merged change)
      (accepted 200 object, s)

/-! ### Lists and streams -/

def list (s : ApiServer) (selection : Selection) : Json :=
  let items := (s.objects selection.kind).filterMap fun (key, object) =>
    let (ns, name) := (Key.split? key).getD ("", key)
    if selection.picks ⟨selection.kind, ns, name⟩ object then some object else none
  .ofMembers [("kind", .str "List"), ("apiVersion", .str "v1"), ("items", .arr items),
    ("metadata", .ofMembers [("resourceVersion", .str (toString s.version))])]

/-- Opens a stream behind a version; it begins with the changes since then. -/
def openStream (s : ApiServer) (selection : Selection) (version : Nat) : Nat × ApiServer :=
  let missed := s.log.filter fun e => version < e.version ∧ selection.picks e.name e.object
  let number := s.opened + 1
  (number, { s with
    opened := number
    streams := s.streams ++ [⟨number, selection, missed.reverse.map Entry.line, false⟩] })

/-- Nobody reads a stream any more. -/
def drop (s : ApiServer) (number : Nat) : ApiServer :=
  { s with streams := s.streams.filter (·.number ≠ number) }

def find? (s : ApiServer) (number : Nat) : Option OpenStream :=
  s.streams.find? (·.number = number)

/-- Whether a reader of the stream has something to read. -/
def hasNews (s : ApiServer) (number : Nat) : Bool :=
  match s.find? number with
  | some t => !t.lines.isEmpty || t.ended
  | none => true

/-- The next line of a stream: one that is there, the end, or nothing yet. -/
def read (s : ApiServer) (number : Nat) : Option (Option Json) × ApiServer :=
  match s.find? number with
  | none => (some none, s)
  | some t =>
    match t.lines with
    | l :: rest =>
      (some (some l), { s with
        streams := s.streams.map fun t =>
          if t.number = number then { t with lines := rest } else t })
    | [] => if t.ended then (some none, s.drop number) else (none, s)

/-- Sends a failure down every stream of a kind. -/
def reportFailure (s : ApiServer) (kind : Kube.Kind) (code : Nat) : ApiServer :=
  let l := line "ERROR" (statusJson code "injected")
  { s with streams := s.streams.map fun t =>
      if t.selection.kind = kind ∧ !t.ended then { t with lines := t.lines ++ [l] } else t }

def endStreams (s : ApiServer) : ApiServer :=
  { s with streams := s.streams.map fun t => { t with ended := true } }

/-- The kinds that somebody watches. -/
def watched (s : ApiServer) : List Kube.Kind :=
  [Kube.Kind.declaring, .configMap, .secret].filter fun k =>
    s.streams.any fun t => t.selection.kind = k ∧ !t.ended

/-! ### Answers -/

/-- What a request gets: a response or a stream. -/
inductive Answer where
  | response (r : Web.Response)
  | stream (number : Nat)

def access (r : Web.Request) : Spot → Access
  | .collection .. =>
    match r.verb with
    | .get => if r.target.pairs.lookup "watch" = some "true" then .watch else .list
    | _ => .post
  | _ =>
    match r.verb with
    | .get => .get
    | .post => .post
    | .put => .put
    | .patch => .patch

/-- Takes one failure out of those ordered, if the next request of this sort is to fail. -/
def takeOutage (access : Access) (kind : Kube.Kind) : List Outage → Option (Nat × List Outage)
  | [] => none
  | o :: rest =>
    if o.access = access ∧ o.kind = kind ∧ 0 < o.times then
      some (o.code, { o with times := o.times - 1 } :: rest)
    else (takeOutage access kind rest).map fun (code, rest) => (code, o :: rest)

/-- The answer to a request that is not told to fail. -/
def perform (s : ApiServer) (r : Web.Request) (spot : Spot) : Answer × ApiServer :=
  let body := r.body.getD .null
  let respond (x : Web.Response × ApiServer) : Answer × ApiServer := (.response x.1, x.2)
  match spot, access r spot with
  | .collection kind ns, .list =>
    (.response (accepted 200 (s.list (.ofRequest kind ns r))), s)
  | .collection kind ns, .watch =>
    let version := ((r.target.pairs.lookup "resourceVersion").bind String.toNat?).getD 0
    let (number, s) := s.openStream (.ofRequest kind ns r) version
    (.stream number, s)
  | .collection kind (some ns), .post => respond (s.create kind ns body)
  | .object o, .get =>
    match s.get? o with
    | some object => (.response (accepted 200 object), s)
    | none => (.response (refusal 404 "not found"), s)
  | .object o, .put => respond (s.replace o body)
  | .status o, .patch => respond (s.patchStatus o body)
  | .events, .post => (.response (accepted 201 body), { s with events := s.events.push body })
  | .events, .patch => (.response (accepted 200 body), { s with events := s.events.push body })
  | _, _ => (.response (refusal 404 "not found"), s)

/-- The answer to a request. -/
def answer (s : ApiServer) (r : Web.Request) : Answer × ApiServer :=
  let spot := Spot.ofPath r.target.path
  let a := access r spot
  let s := if a = .list ∨ a = .watch then { s with asked := s.asked.push r } else s
  match spot.kind?.bind (takeOutage a · s.outages) with
  | some (code, outages) => (.response (refusal code "injected"), { s with outages })
  | none => s.perform r spot

end ApiServer

end VaultProjection.Simulation
