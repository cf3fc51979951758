import VaultProjection.Proofs.Pass.Transcript
import VaultProjection.Proofs.Queue.View
import VaultProjection.Proofs.Watch.Shelf

/-!
# The watch loop and the structural passes

The watch loop handles notices and the ticks of its timer; workers take keys from the structural
queue and run passes that look at the cache; delayed adds fire. All of this is interleaved question
by question. The state also records what was shown, announced and read, for which nothing that runs
asks.
-/

namespace VaultProjection

/-- The copy of an object that a notice shows. -/
def Watch.Notice.copy? {α : Type} : Watch.Notice α → Option α
  | .apply a | .initApply a => some a
  | .init | .initDone | .delete _ => none

namespace Coverage

/-! ## The watch and the structural passes -/

/-- A structural pass under way: what it has asked, and what is still to come. -/
structure Visit where
  past : Transcript
  rest : Program (Except PassError Unit)
  /-- The retry policy was applied to its result. -/
  handled : Bool

/-- A look at the cache. -/
structure Reading where
  key : String
  found : Option Resource
  /-- The copies that the cache had shown by then. -/
  held : List Resource

/-- The watch, the queues and the structural passes, with a record of what happened so far. -/
structure State where
  cache : Watch.Cache
  queues : Queues
  /-- A change that the watch loop is about to send to the queues. -/
  pending : Option Change
  /-- The passes under way, by key. -/
  visits : String → Option Visit
  /-- A list has begun and is not complete. -/
  listing : Bool
  /-- The copies that any notice has shown. -/
  seen : List Resource
  /-- The copies that the cache has shown. -/
  held : List Resource
  /-- The copies that were announced as added, or as updated to another version. -/
  announced : List Resource
  readings : List Reading
  /-- The copies that came into the cache by a list when no pass was due to read them, and whose
  keys were not queued since. -/
  overlooked : Resource → Prop

namespace State

variable {s : State}

def start (backoff : Backoff) : State where
  cache := .empty
  queues := .empty backoff
  pending := none
  visits _ := none
  listing := false
  seen := []
  held := []
  announced := []
  readings := []
  overlooked _ := False

/-- What the structural queue has on a key. -/
def view (s : State) (key : String) : KeyView := (s.queues.get .structural).view key

/-- A pass is due to read the resource of the key, or has started and not read it yet. -/
def Due (s : State) (key : String) : Prop :=
  (s.view key).dirty = true ∨ ∃ v, s.visits key = some v ∧ v.past = []

/-- Some pass over the resource has found it in the cache when the cache had come to show this copy,
so that what it found is this copy or one that the cache showed later. -/
def Read (s : State) (r : Resource) : Prop :=
  ∃ e ∈ s.readings, e.key = r.key ∧ e.found.isSome ∧ r ∈ e.held

/-- Both queues change, and the resources whose keys wait now are overlooked no more. -/
def queued (s : State) (qs : Queues) : State :=
  { s with
    queues := qs
    overlooked := fun r => s.overlooked r ∧ ((qs.get .structural).view r.key).dirty = false }

/-- The copy comes into the cache by the list that is complete now, and no pass is due to read it.
A copy that the cache has shown before may have been read then; one that is new to it cannot. -/
def Late (s : State) (r : Resource) : Prop :=
  r ∈ s.cache.collected.map (·.2) ∧ r ∉ s.cache.resources ∧ r.hasOutput = true ∧
    ¬ s.Due r.key ∧ (r ∈ s.held → ¬ s.Read r)

/-- The copy that a change announces. -/
def announces : Change → List Resource
  | .added r => [r]
  | .updated old r => if Change.sameVersion old r then [] else [r]
  | .deleted _ => []

/-- The watch loop applies a notice to the cache. -/
def notice (s : State) (n : Watch.Notice Resource) : State :=
  let (cache, change) := s.cache.apply n
  { s with
    cache
    pending := change
    listing := match n with
      | .init | .initApply _ => true
      | .initDone => false
      | .apply _ | .delete _ => s.listing
    seen := s.seen ++ n.copy?.toList
    held := s.held ++ cache.resources
    overlooked := fun r => s.overlooked r ∨ n = .initDone ∧ s.Late r }

/-- The watch loop sends the change to the queues. -/
def dispatch (s : State) (c : Change) : State :=
  { s.queued (s.queues.dispatch c).1 with
    pending := none
    announced := s.announced ++ announces c }

/-- What the API server may show: resources with names, and no two copies of one in the same
version. -/
def Fits (s : State) (r : Resource) : Prop :=
  (∃ ns name, r.Named ns name) ∧
    ∀ r' ∈ s.seen, r'.key = r.key → Change.sameVersion r' r = true → r' = r

/-- The queues after a question of a pass. -/
def queuesAfter (s : State) : Request → Queues
  | .enqueue id key => (s.queues.add id key).1
  | _ => s.queues

/-- The cache answers what is asked of it; anything may answer the rest. -/
def Answers (s : State) : (r : Request) → r.Answer → Prop
  | .lookup ns name, found => found = s.cache.lookup ns name
  | _, _ => True

/-- The readings of the cache that a question is. -/
def readingsOf (s : State) (key : String) : Request → List Reading
  | .lookup ns name => [⟨key, s.cache.lookup ns name, s.held⟩]
  | _ => []

def setVisit (s : State) (key : String) (v : Option Visit) : State :=
  { s with visits := fun k => if k = key then v else s.visits k }

/-- A pass goes on with the answer to its question. -/
def asked (s : State) (key : String) (past : Transcript) (r : Request) (answer : r.Answer)
    (next : Program (Except PassError Unit)) : State :=
  { (s.queued (s.queuesAfter r)).setVisit key (some ⟨past ++ [⟨r, answer⟩], next, false⟩) with
    readings := s.readings ++ s.readingsOf key r }

end State

/-- What can happen next. The watch loop applies a notice to the cache, sends on what it means, or
shows everything again when its timer ticks. A worker takes a key, its pass gets an answer, the
retry policy is applied to its result, and the key is given back; a delayed add fires. Passes of the
other kind and deleted outputs add keys, and anything may happen to the other queue. -/
inductive Step (maxRetries : Nat) (s : State) : State → Prop where
  | notice (n : Watch.Notice Resource) (free : s.pending = none)
      (fits : ∀ r, n.copy? = some r → s.Fits r) : Step maxRetries s (s.notice n)
  | dispatch {c : Change} (pending : s.pending = some c) : Step maxRetries s (s.dispatch c)
  | resync (free : s.pending = none) : Step maxRetries s (s.queued (s.cache.resync s.queues).1)
  | add (key : String) : Step maxRetries s (s.queued (s.queues.add .structural key).1)
  | drift {q : WorkQueue} (sound : q.Sound) (works : q.stopped = false) :
      Step maxRetries s (s.queued (s.queues.set .drift q))
  | take {key : String} {q : WorkQueue} {ss : List Signal}
      (found : (s.queues.get .structural).take = (q, .key key, ss)) :
      Step maxRetries s ((s.queued (s.queues.set .structural q)).setVisit key
        (some ⟨[], (Pass.structural key).run, false⟩))
  | ask {key : String} {past : Transcript} {r : Request}
      {next : r.Answer → Program (Except PassError Unit)}
      (asks : s.visits key = some ⟨past, .ask r next, false⟩) (answer : r.Answer)
      (fits : s.Answers r answer) :
      Step maxRetries s (s.asked key past r answer (next answer))
  | handle {key : String} {past : Transcript} {result : Except PassError Unit}
      (ends : s.visits key = some ⟨past, .done result, false⟩) (now : Duration) :
      Step maxRetries s ((s.queued (s.queues.set .structural (Retry.handle
        (s.queues.get .structural) now key result maxRetries).1)).setVisit key
        (some ⟨past, .done result, true⟩))
  | done {key : String} {past : Transcript} {result : Except PassError Unit}
      (handled : s.visits key = some ⟨past, .done result, true⟩) :
      Step maxRetries s ((s.queued (s.queues.set .structural
        ((s.queues.get .structural).done key).1)).setVisit key none)
  | fire {key : String} {d : DelayedAdd}
      (pending : (s.queues.get .structural).delayed.get? key = some d) :
      Step maxRetries s (s.queued (s.queues.set .structural
        ((s.queues.get .structural).fire key d.number).1))

/-- What can happen from the start. -/
inductive Reached (maxRetries : Nat) : State → Prop where
  | start (backoff : Backoff) : Reached maxRetries (.start backoff)
  | step {s s' : State} (before : Reached maxRetries s) (next : Step maxRetries s s') :
      Reached maxRetries s'

end Coverage

end VaultProjection
