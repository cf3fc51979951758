import VaultProjection.Yaml.Token
/-!
The nodes of a YAML document. An alias is a node of its own: what it stands for is looked up in the
document, where a node may even contain an alias to itself.

An anchor that is given again takes the number of anchors with different names as its new number, so
a later anchor may take over the same number, and with it all aliases.
-/

namespace VaultProjection.Yaml

/-- A tag, whose bytes need not spell a text. -/
abbrev Tag := Bytes

inductive Node where
  | alias (anchor : Nat)
  | scalar (text : String) (plain : Bool) (tag : Option Tag)
  | seq (tag : Option Tag) (items : List Node)
  | map (tag : Option Tag) (members : List (Node × Node))
  deriving Inhabited, Repr

/-- A node without content. -/
def Node.empty : Node := .scalar "" true none

/-- The nodes of a document, and where its aliases lead. -/
structure Document where
  root : Node
  /-- The anchored node that each anchor number stands for. -/
  places : List (Nat × Nat)
  /-- The anchored nodes by the order in which they start. -/
  anchored : List (Nat × Node)

/-- A reader within a list of tokens. -/
structure Reading where
  tokens : List Token
  /-- The meaning of tag handles. -/
  handles : List (String × Bytes)
  /-- The anchors so far by name. -/
  anchors : List (String × Nat)
  places : List (Nat × Nat)
  anchored : List (Nat × Node)
  /-- The number of anchored nodes started. -/
  started : Nat

abbrev ReadM := StateT Reading Option

namespace ReadM

def fail {α : Type} : ReadM α := fun _ => none

def peek : ReadM (Option Token) := do return (← get).tokens.head?

def skip : ReadM Unit := modify fun r => { r with tokens := r.tokens.tail }

/-- Takes a token if it is the next one. -/
def accept (t : Token) : ReadM Bool := do
  if (← peek) = some t then
    skip
    return true
  else return false

def expect (t : Token) : ReadM Unit := do
  if !(← accept t) then fail

/-- The whole tag, if its handle is known. -/
def resolveTag (handle : String) (suffix : Bytes) : ReadM Tag := do
  if handle.isEmpty then return suffix
  match (← get).handles.lookup handle with
  | some lead => return lead ++ suffix
  | none => fail

/-- What stands in front of a node: an anchor and a tag, each at most once, in either order. -/
def properties : ReadM (Option String × Option Tag) := do
  match ← peek with
  | some (.anchor a) =>
    skip
    match ← peek with
    | some (.tag h s) =>
      skip
      return (some a, some (← resolveTag h s))
    | _ => return (some a, none)
  | some (.tag h s) =>
    skip
    match ← peek with
    | some (.anchor a) =>
      skip
      return (some a, some (← resolveTag h s))
    | _ => return (none, some (← resolveTag h s))
  | _ => return (none, none)

/-- Starts an anchored node and gives its place in the order of such nodes. -/
def startAnchor (name : String) : ReadM Nat := do
  let r ← get
  let number := r.anchors.length
  let others := r.anchors.filter (·.1 ≠ name)
  set { r with
    anchors := (name, number) :: others
    places := (number, r.started) :: r.places.filter (·.1 ≠ number)
    started := r.started + 1 }
  return r.started

def finishAnchor (place : Nat) (n : Node) : ReadM Unit :=
  modify fun r => { r with anchored := (place, n) :: r.anchored }

mutual
/-- A node; block collections only where they may stand, and a sequence without indentation only
below a key. -/
def node (fuel : Nat) (inBlock noIndent : Bool) : ReadM Node :=
  match fuel with
  | 0 => fail
  | n + 1 => do
    if let some (.alias a) ← peek then
      skip
      match (← get).anchors.lookup a with
      | some number => return .alias number
      | none => fail
    else
      let (anchor, tag) ← properties
      let place ← anchor.mapM startAnchor
      let result ← content n inBlock noIndent tag (anchor.isSome || tag.isSome)
      if let some p := place then finishAnchor p result
      return result

/-- A node behind its properties; with properties it may be empty. -/
def content (fuel : Nat) (inBlock noIndent : Bool) (tag : Option Tag) (mayBeEmpty : Bool) :
    ReadM Node :=
  match fuel with
  | 0 => fail
  | n + 1 => do
    match ← peek with
    | some .blockEntry =>
      if noIndent then return .seq tag (← bareItems n)
      else if mayBeEmpty then return .scalar "" true tag
      else fail
    | some (.scalar text plain) =>
      skip
      return .scalar text plain tag
    | some .flowSeqStart =>
      skip
      return .seq tag (← flowItems n true)
    | some .flowMapStart =>
      skip
      return .map tag (← flowMembers n true)
    | some .blockSeqStart =>
      if inBlock then
        skip
        return .seq tag (← blockItems n)
      else if mayBeEmpty then return .scalar "" true tag
      else fail
    | some .blockMapStart =>
      if inBlock then
        skip
        return .map tag (← blockMembers n)
      else if mayBeEmpty then return .scalar "" true tag
      else fail
    | _ => if mayBeEmpty then return .scalar "" true tag else fail

/-- A node, or an empty one in front of a token that ends it. -/
def nodeUnless (fuel : Nat) (inBlock noIndent : Bool) (ends : Token → Bool) : ReadM Node :=
  match fuel with
  | 0 => fail
  | n + 1 => do
    if (← peek).any ends then return .empty
    else node n inBlock noIndent

/-- The items of an indented sequence. -/
def blockItems (fuel : Nat) : ReadM (List Node) :=
  match fuel with
  | 0 => fail
  | n + 1 => do
    if ← accept .blockEntry then
      let item ← nodeUnless n true false fun t => t = .blockEntry ∨ t = .blockEnd
      return item :: (← blockItems n)
    else
      expect .blockEnd
      return []

/-- The items of a sequence that stands below its key without indentation. -/
def bareItems (fuel : Nat) : ReadM (List Node) :=
  match fuel with
  | 0 => fail
  | n + 1 => do
    if ← accept .blockEntry then
      let item ← nodeUnless n true false fun t =>
        t = .blockEntry ∨ t = .key ∨ t = .value ∨ t = .blockEnd
      return item :: (← bareItems n)
    else return []

def blockMembers (fuel : Nat) : ReadM (List (Node × Node)) :=
  match fuel with
  | 0 => fail
  | n + 1 => do
    let ends (t : Token) : Bool := t = .key ∨ t = .value ∨ t = .blockEnd
    if ← accept .key then
      let k ← nodeUnless n true true ends
      let v ← if ← accept .value then nodeUnless n true true ends else pure .empty
      return (k, v) :: (← blockMembers n)
    else
      expect .blockEnd
      return []

/-- The items up to the closing sign; an item with a key is a map with this one member. -/
def flowItems (fuel : Nat) (first : Bool) : ReadM (List Node) :=
  match fuel with
  | 0 => fail
  | n + 1 => do
    if ← accept .flowSeqEnd then return []
    if !first then
      expect .flowEntry
      if ← accept .flowSeqEnd then return []
    if ← accept .key then
      let ends (t : Token) : Bool := t = .flowEntry ∨ t = .flowSeqEnd
      let k ←
        if (← peek).any fun t => t = .value || ends t then do
          skip
          pure .empty
        else node n false false
      let v ← if ← accept .value then nodeUnless n false false ends else pure .empty
      return .map none [(k, v)] :: (← flowItems n false)
    else
      let item ← node n false false
      return item :: (← flowItems n false)

def flowMembers (fuel : Nat) (first : Bool) : ReadM (List (Node × Node)) :=
  match fuel with
  | 0 => fail
  | n + 1 => do
    if ← accept .flowMapEnd then return []
    if !first then
      expect .flowEntry
      if ← accept .flowMapEnd then return []
    let ends (t : Token) : Bool := t = .flowEntry ∨ t = .flowMapEnd
    if ← accept .key then
      let k ← nodeUnless n false false fun t => t = .value || ends t
      let v ← if ← accept .value then nodeUnless n false false ends else pure .empty
      return (k, v) :: (← flowMembers n false)
    else
      let k ← node n false false
      return (k, .empty) :: (← flowMembers n false)
end

/-! ## Documents -/

/-- Directives in front of a document: a version 1.1 or 1.2 at most once, each handle at most once.
Tells whether there are any. -/
def directives : Nat → Bool → List String → ReadM Bool
  | 0, _, _ => fail
  | n + 1, versioned, handles => do
    match ← peek with
    | some (.version major minor) =>
      if versioned ∨ major ≠ 1 ∨ (minor ≠ 1 ∧ minor ≠ 2) then fail
      skip
      let _ ← directives n true handles
      return true
    | some (.tagHandle h lead) =>
      if handles.contains h then fail
      skip
      modify fun r => { r with handles := (h, lead) :: r.handles }
      let _ ← directives n versioned (h :: handles)
      return true
    | _ => return versioned || !handles.isEmpty

/-- The only document of the tokens; an empty text has none. -/
def document : ReadM (Option Document) := do
  let fuel := 4 * (← get).tokens.length + 8
  if (← peek).isNone then return none
  let directed ← directives fuel false []
  let ends (t : Token) : Bool := match t with
    | .version .. | .tagHandle .. | .documentStart | .documentEnd => true
    | _ => false
  let explicit ← accept .documentStart
  if directed && !explicit then fail
  let root ←
    if explicit then
      match ← peek with
      | none => pure Node.empty
      | some t => if ends t then pure Node.empty else node fuel true false
    else node fuel true false
  modify fun r => { r with tokens := r.tokens.dropWhile (· = .documentEnd) }
  let r ← get
  if !r.tokens.isEmpty then fail
  return some ⟨root, r.places, r.anchored⟩

end ReadM

/-- The handles that every document knows. -/
def defaultHandles : List (String × Bytes) :=
  [("!", Bytes.ofText "!"), ("!!", Bytes.ofText "tag:yaml.org,2002:")]

/-- The document of a text; nothing at all for a text without one. -/
def Document.ofText? (s : String) : Option (Option Document) := do
  let ts ← tokens? s.toList
  let (d, _) ← ReadM.document.run ⟨ts, defaultHandles, [], [], [], 0⟩
  some d

end VaultProjection.Yaml
