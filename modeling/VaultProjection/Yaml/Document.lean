import VaultProjection.Yaml.Core
import VaultProjection.Yaml.Node
/-!
YAML documents as JSON values. Keys must be scalars, whose text they keep; of two equal keys the
later one stays. Tags of the core schema decide what a scalar means, tags of an application are
refused, and all others make a text. Collections may be nested 128 deep, and aliases may be followed
a hundred times as often as the document has nodes.
-/

namespace VaultProjection.Yaml

/-- Where an alias leads. -/
def Document.target (d : Document) (anchor : Nat) : Node :=
  ((d.places.lookup anchor).bind fun place => d.anchored.lookup place).getD .empty

mutual
/-- The number of events that describe a node: two for a collection, one for any other. -/
def Node.size : Node → Nat
  | .alias _ => 1
  | .scalar .. => 1
  | .seq _ items => 2 + itemsSize items
  | .map _ members => 2 + membersSize members

def itemsSize : List Node → Nat
  | [] => 0
  | n :: rest => n.size + itemsSize rest

def membersSize : List (Node × Node) → Nat
  | [] => 0
  | (k, v) :: rest => k.size + v.size + membersSize rest
end

/-- A tag that only an application knows. -/
def Tag.isLocal (t : Tag) : Bool := t.head? == some 0x21

/-- Tags of applications that are text are refused; one that is no text is as good as none. -/
def Tag.isRefused (t : Tag) : Bool := Tag.isLocal t && (Bytes.toText? t).isSome

def coreTag (name : String) : Tag := Bytes.ofText ("tag:yaml.org,2002:" ++ name)

/-- The value of a scalar, by its tag if it has one. -/
def scalarValue (text : String) (plain : Bool) (tag : Option Tag) : Option Json :=
  let s := text.toList
  let untagged := if plain then Core.resolve text else some (.str text)
  match tag with
  | none => untagged
  | some t =>
    if t = coreTag "bool" then (Core.bool? s).map .bool
    else if t = coreTag "int" then (Core.wideInt? s).bind Core.ofInt
    else if t = coreTag "float" then (Core.double? s).map Core.ofDouble
    else if t = coreTag "null" then (if Core.isNull s then some .null else none)
    else if Tag.isRefused t then none
    else if Tag.isLocal t then untagged
    else some (.str text)

/-- Counts the aliases that are still to be followed. -/
abbrev FollowM := StateT Nat Option

/-- A node that is no alias. -/
def Document.follow (d : Document) (n : Node) : FollowM Node := do
  match n with
  | .alias a =>
    match ← get with
    | 0 => failure
    | k + 1 =>
      set k
      return d.target a
  | n => return n

def Document.keyText (d : Document) (n : Node) : FollowM String := do
  match ← d.follow n with
  | .scalar text .. => return text
  | _ => failure

/-- The value of a node with at most `depth` collections inside each other. -/
def Document.value (d : Document) : Nat → Node → FollowM Json
  | depth, n => do
    match ← d.follow n with
    | .scalar text plain tag =>
      match scalarValue text plain tag with
      | some j => return j
      | none => failure
    | .seq tag items =>
      match depth with
      | 0 => failure
      | depth + 1 =>
        if tag.any Tag.isRefused then failure
        return .arr (← items.mapM (d.value depth))
    | .map tag members =>
      match depth with
      | 0 => failure
      | depth + 1 =>
        if tag.any Tag.isRefused then failure
        return .ofMembers (← members.mapM fun (k, v) => do
          return (← d.keyText k, ← d.value depth v))
    | .alias _ => failure

/-- The value of the only document of a text, `null` for a text without one. -/
def read? (s : String) : Option Json := do
  match ← Document.ofText? s with
  | none => some .null
  | some d => (d.value 128 d.root).run' (100 * d.root.size)

end VaultProjection.Yaml
