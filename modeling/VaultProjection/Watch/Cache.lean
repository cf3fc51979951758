import VaultProjection.Dispatch
/-!
The watch cache: the resources as the watch last showed them. A list is collected aside and replaces
the cache when it is complete; until then the cache serves what it held before.
-/

namespace VaultProjection.Watch

/-- What a watch delivers about objects of a kind. -/
inductive Notice (α : Type) where
  /-- A list begins. -/
  | init
  /-- An object of the list. -/
  | initApply (object : α)
  /-- The list is complete. -/
  | initDone
  | apply (object : α)
  | delete (object : α)
  deriving BEq, Repr

/-- What a resource is found by: its namespace, if it has one, and its name. -/
structure Place where
  ns : Option String
  name : String
  deriving DecidableEq, Repr

def Place.of (r : Resource) : Place := ⟨r.metadata.ns, r.metadata.name.getD ""⟩

/-- Resources by place, each place once. -/
abbrev Shelf := List (Place × Resource)

namespace Shelf

def put (s : Shelf) (r : Resource) : Shelf :=
  let p := Place.of r
  if s.any (·.1 == p) then s.map fun e => if e.1 == p then (p, r) else e else s ++ [(p, r)]

def drop (s : Shelf) (p : Place) : Shelf := s.filter (·.1 != p)

/-- The resource at a place, or else one with its name and no namespace. -/
def find? (s : Shelf) (p : Place) : Option Resource :=
  (s.lookup p).orElse fun _ => s.lookup { p with ns := none }

end Shelf

structure Cache where
  shown : Shelf
  /-- The list that is being collected. -/
  collected : Shelf
  deriving BEq, Repr

namespace Cache

def empty : Cache := ⟨[], []⟩

def lookup (c : Cache) (ns name : String) : Option Resource := c.shown.find? ⟨some ns, name⟩

def resources (c : Cache) : List Resource := c.shown.map (·.2)

/-- What a notice means for a resource, as far as the cache knows it. -/
def change? (c : Cache) : Notice Resource → Option Change
  | .apply r | .initApply r =>
    match c.shown.find? (.of r) with
    | some old => some (.updated old r)
    | none => some (.added r)
  | .delete r => some (.deleted r)
  | .init | .initDone => none

/-- The cache after a notice. -/
def step (c : Cache) : Notice Resource → Cache
  | .apply r => { c with shown := c.shown.put r }
  | .delete r => { c with shown := c.shown.drop (.of r) }
  | .init => { c with collected := [] }
  | .initApply r => { c with collected := c.collected.put r }
  | .initDone => ⟨c.collected, []⟩

/-- Applies a notice: what it means is judged by the cache before it. -/
def apply (c : Cache) (n : Notice Resource) : Cache × Option Change := (c.step n, c.change? n)

/-- Shows every cached resource again as if it had been updated to itself. -/
def resync (c : Cache) (qs : Queues) : Queues × List Signal :=
  c.resources.foldl (fun (qs, ss) r =>
    let (qs, _, more) := qs.dispatch (.updated r r)
    (qs, ss ++ more)) (qs, [])

end Cache

/-- The labels of the objects that the controller creates. -/
def managedSelector : String := managedByLabel ++ "=" ++ controllerName

end VaultProjection.Watch
