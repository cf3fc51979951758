import VaultProjection.Json.Decode
import VaultProjection.Json.Fault
/-!
Shapes of JSON documents: which documents have a shape, and at what a reader that wants a shape
stops in a text. Such a reader goes through the text once. A value of another kind is a fault as
soon as it has been read, wherever the text ceases to be JSON behind it.
-/

namespace VaultProjection.Json

/-! ## Shapes -/

/-- What a reader wants. -/
inductive Shape where
  /-- Anything; its texts and numbers need not be understood. -/
  | skipped
  /-- Any value with containers that are nested at most this deep. -/
  | value (room : Nat)
  | bool
  | text
  /-- An integer of so many bits with a sign, between two bounds that are looked at later. -/
  | int (bits : Nat) (bounds? : Option (Int × Int))
  /-- A value or `null`. -/
  | optional (of : Shape)
  /-- An object with a value of one shape for each name. -/
  | table (of : Shape)
  /-- A closed record; as an array it has `least` items or more. -/
  | record (fields : List (String × Shape)) (least : Nat)

namespace Shape

/-- The shape of the item at an index of an array; none if no more items are read. -/
def item? : Shape → Nat → Option Shape
  | .skipped, _ => some .skipped
  | .value room, _ => some (.value (room - 1))
  | .record fields _, i => fields[i]?.map (·.2)
  | _, _ => none

/-- The least number of items. -/
def least : Shape → Nat
  | .record _ least => least
  | _ => 0

/-- The shape of the member with a name. -/
def member : Shape → String → Shape
  | .value room, _ => .value (room - 1)
  | .table of, _ => of
  | .record fields _, name => (fields.lookup name).getD .skipped
  | _, _ => .skipped

/-- The name may not come a second time. -/
def isField : Shape → String → Bool
  | .record fields _, name => (fields.lookup name).isSome
  | _, _ => false

/-- Nothing in it is looked at. -/
def isSkipped : Shape → Bool
  | .skipped => true
  | _ => false

def mayBeArray : Shape → Bool
  | .skipped => true
  | .value _ => true
  | .record _ _ => true
  | _ => false

def mayBeObject : Shape → Bool
  | .table _ => true
  | s => s.mayBeArray

/-- Containers in it would be nested too deep. -/
def isFull : Shape → Bool
  | .value 0 => true
  | _ => false

/-! ## Documents -/

/-- Whether an integer fits in so many bits with a sign. -/
def isWithin (bits : Nat) (n : Int) : Bool := -Nat.pow 2 (bits - 1) ≤ n && n < Nat.pow 2 (bits - 1)

def isBetween (bounds? : Option (Int × Int)) (n : Int) : Bool :=
  bounds?.all fun (low, high) => low ≤ n && n ≤ high

mutual
/-- Whether a document has a shape. -/
def fits : Shape → Raw → Bool
  | .skipped, _ => true
  | .value room, r => (r.value? room).isSome
  | .bool, r => r.bool?.isSome
  | .text, r => r.str?.isSome
  | .int bits bounds?, .number (some (.int n)) => isWithin bits n && isBetween bounds? n
  | .int _ _, _ => false
  | .optional s, r => r.isNull || s.fits r
  | .table s, r => r.members?.any fun ms => ms.all fun (_, r) => s.fits r
  | .record fields least, r =>
    (r.fields? (fields.map (·.1)) least).any fun given => fieldsFit fields given

/-- Whether those of the fields that are given have their shapes. -/
def fieldsFit : List (String × Shape) → List (String × Raw) → Bool
  | [], _ => true
  | (name, s) :: rest, given => (given.lookup name).all s.fits && fieldsFit rest given
end

/-! ## Leaves -/

/-- The fault of a leaf as a value of a shape, with what is left behind it. -/
def leafFault? (s : Shape) (j : Json) (rest : Bytes) : Option Fault :=
  let other := some ⟨naming j, rest, false⟩
  match s, j with
  | .value _, _ => none
  | .bool, .bool _ => none
  | .text, .str _ => none
  | .int bits bounds?, .int n =>
    if !isWithin bits n then other
    else if isBetween bounds? n then none
    else some ⟨naming j, rest, true⟩
  | _, _ => other

/-- Behind a leaf of a shape. -/
def behindLeaf (s : Shape) (b : Bytes) : Rest :=
  if s.isSkipped then Json.behindLeaf false b
  else do
    let (j, rest) ← leaf b
    match s.leafFault? j rest with
    | none => .ok rest
    | some f => .error f

/-! ## Containers -/

/-- Moves an open fault of an object behind the brace that follows it. -/
def closeObject (f : Fault) : Fault :=
  if f.isOpen then
    match skipSpace f.rest with
    | 125 :: rest => .mk f.found rest false
    | rest => .mk f.found rest false
  else f

/-- Moves an open fault of an array behind the bracket or comma that follows it. -/
def closeArray (f : Fault) : Fault :=
  if f.isOpen then
    match skipSpace f.rest with
    | 93 :: rest => .mk f.found rest false
    | 44 :: rest => .mk f.found (skipSpace rest) false
    | rest => .mk f.found rest false
  else f

/-- Behind the name of a member, whose quote has been read. -/
def behindName (s : Shape) (b : Bytes) : Except Fault (String × Bytes) :=
  if s.isSkipped then (behindText false false b).map ("", ·)
  else match leaf (34 :: b) with
    | .ok (.str name, rest) => .ok (name, rest)
    | .ok (_, rest) => .error (.before rest)
    | .error f => .error f

/-- Where the next part of a container begins that does not end here. -/
def nextPart (isFirst : Bool) (b : Bytes) : Rest :=
  if isFirst then .ok b
  else match b with
    | 44 :: rest => .ok (skipSpace rest)
    | _ => .error (.next b)

/-- Where the next item of an array begins that does not end here. -/
def nextItem (isFirst : Bool) (b : Bytes) : Rest := do
  let b ← nextPart isFirst b
  match b with
  | [] => .error (.next [])
  | 93 :: _ => .error (.next b)
  | b => .ok b

mutual
/-- Behind a value of a shape. -/
def behind : Nat → Shape → Bytes → Rest
  | 0, _, b => .error (.next b)
  | fuel + 1, .optional s, b =>
    match skipSpace b with
    | 110 :: rest => behindWord [117, 108, 108] rest
    | b => behind fuel s b
  | fuel + 1, s, b =>
    match skipSpace b with
    | 91 :: rest =>
      if s.isFull then .error (.before rest)
      else if s.mayBeArray then (behindItems fuel s 0 rest).mapError closeArray
      else .error ⟨naming (.arr []), 91 :: rest, false⟩
    | 123 :: rest =>
      if s.isFull then .error (.before rest)
      else if s.mayBeObject then (behindMembers fuel s [] rest).mapError closeObject
      else .error ⟨naming (.obj []), 123 :: rest, false⟩
    | b => s.behindLeaf b

/-- Behind an array, from the item at an index. -/
def behindItems : Nat → Shape → Nat → Bytes → Rest
  | 0, _, _, b => .error (.next b)
  | fuel + 1, s, i, b =>
    match skipSpace b with
    | 93 :: rest => if i < s.least then .error ⟨"", 93 :: rest, true⟩ else .ok rest
    | b =>
      match s.item? i with
      | some t => do
        let b ← nextItem (i == 0) b
        behindItems fuel s (i + 1) (← behind fuel t b)
      | none =>
        match b with
        | 44 :: rest => .error (.next (skipSpace rest))
        | b => .error (.next b)

/-- Behind an object, from the end of a member; these names have been seen. -/
def behindMembers : Nat → Shape → List String → Bytes → Rest
  | 0, _, _, b => .error (.next b)
  | fuel + 1, s, seen, b =>
    match skipSpace b with
    | 125 :: rest => .ok rest
    | b => do
      match ← nextPart seen.isEmpty b with
      | 34 :: rest =>
        let (name, rest) ← behindName s rest
        if s.isField name && seen.contains name then .error ⟨"", rest, true⟩
        else
          match skipSpace rest with
          | 58 :: rest => behindMembers fuel s (name :: seen) (← behind fuel (s.member name) rest)
          | b => .error (.next b)
      | b => .error (.next b)
end

/-- The first fault of a text for a reader that wants a shape. Each byte needs at most three steps:
into a value, past a possible `null` and to the next item. -/
def fault? (s : Shape) (text : Bytes) : Option Fault :=
  match behind (3 * text.length + 3) s text with
  | .error f => some f
  | .ok rest => if (skipSpace rest).isEmpty then none else some (.next (skipSpace rest))

end Shape

end VaultProjection.Json
