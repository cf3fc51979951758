import VaultProjection.Simulation.ApiServer
/-!
A task that follows the objects of a kind on an API server in memory. It goes on until it has made a
request, must pause, or finds nothing new.
-/

namespace VaultProjection.Simulation

open Watch (Form Notice Phase Pause Subject)

structure Follower (α : Type) where
  subject : Subject
  phase : Phase α
  pause : Pause

namespace Follower

variable {α : Type}

def new (subject : Subject) : Follower α := ⟨subject, .start, .none⟩

/-- The stream that is being read. -/
def stream? (f : Follower α) : Option Nat :=
  match f.phase with
  | .streaming _ n => some n
  | _ => none

def isPausing (f : Follower α) : Bool := f.pause.till.isSome

/-- Whether there is something to read on a stream that is waited for. -/
def hasNews (f : Follower α) (server : ApiServer) : Bool :=
  !f.isPausing && f.stream?.any server.hasNews

/-- The pause is over. -/
def resume (f : Follower α) : Follower α := { f with pause := { f.pause with till := none } }

/-- The stream is given up. -/
def leave (f : Follower α) (server : ApiServer) : ApiServer :=
  match f.stream? with
  | some n => server.drop n
  | none => server

/-- What a task did: what it tells, and whether it only waits for the answer of a request. -/
structure Turn (α : Type) where
  follower : Follower α
  server : ApiServer
  told : List (Except Watch.Failure (Notice α))
  again : Bool

/-- After a failure there is a pause. -/
def pausing (f : Follower α) (now : Duration) (failure : Option Watch.Failure) (phase : Phase α) :
    Follower α × List (Except Watch.Failure (Notice α)) :=
  match failure with
  | none => ({ f with phase }, [])
  | some e => ({ f with phase, pause := f.pause.afterFailure now }, [.error e])

def request (server : ApiServer) (r : Option Web.Request) :
    Except Cluster.Failure ApiServer.Answer × ApiServer :=
  match r with
  | none => (.error .connection, server)
  | some r =>
    let (a, server) := server.answer r
    (.ok a, server)

/-- Asks for a list. -/
def list (form : Form α) (now : Duration) (f : Follower α) (server : ApiServer) : Turn α :=
  let (answer, server) := request server f.subject.listRequest?
  let listing := match answer with
    | .ok (.response r) => Cluster.understand (Watch.Listing.read? form) (some r)
    | _ => .error .connection
  let (failure, phase) := Phase.afterList listing
  let (f, told) := f.pausing now failure phase
  ⟨f, server, told, failure.isNone⟩

/-- Asks for a stream. -/
def openStream (version : String) (now : Duration) (f : Follower α) (server : ApiServer) : Turn α :=
  let (answer, server) := request server (f.subject.streamRequest? version)
  let stream : Except Cluster.Failure Nat := match answer with
    | .ok (.stream n) => .ok n
    | .ok (.response r) =>
      if r.isFailure then .error (.response (.ofResponse r)) else .error .connection
    | .error e => .error e
  let (failure, phase) := Phase.afterOpen version stream
  let (f, told) := f.pausing now failure phase
  ⟨f, server, told, failure.isNone⟩

/-- Goes on, for at most `n` notices. -/
def turn (form : Form α) (now : Duration) : Nat → Follower α → ApiServer → Turn α
  | 0, f, server => ⟨f, server, [], true⟩
  | n + 1, f, server =>
    if f.isPausing then ⟨f, server, [], false⟩
    else match f.phase.next with
      | .say notice phase =>
        let t := turn form now n { f with phase, pause := f.pause.afterSuccess now } server
        { t with told := .ok notice :: t.told }
      | .list => f.list form now server
      | .open version => f.openStream version now server
      | .receive stream =>
        let version := match f.phase with
          | .streaming v _ => v
          | _ => ""
        match server.read stream with
        | (none, server) => ⟨f, server, [], false⟩
        | (some line, server) =>
          let incoming := match line with
            | some j => Watch.Incoming.ofJson form j
            | none => .ended
          let (said, phase) := Phase.afterIncoming version stream incoming
          let next := { f with phase }
          let server := if next.stream?.isNone then server.drop stream else server
          match said with
          | none => turn form now n next server
          | some (.ok notice) =>
            let t := turn form now n { next with pause := f.pause.afterSuccess now } server
            { t with told := .ok notice :: t.told }
          | some (.error e) =>
            ⟨{ next with pause := f.pause.afterFailure now }, server, [.error e], false⟩

end Follower

end VaultProjection.Simulation
