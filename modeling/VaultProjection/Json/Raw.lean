import VaultProjection.Json.Basic
/-!
JSON as it is written. The members of an object stand in the order of the text, also two with one
name; a text that spells no characters and a number that is too large are kept without a value. What
such a document means is for its reader to say: taken as a value every part must have one, and a
reader of some members may pass over the rest.
-/

namespace VaultProjection.Json

/-- A text as it is written. -/
structure RawText where
  /-- What it spells; nothing if half of a surrogate pair is missing. -/
  value? : Option String
  /-- It is written without backslashes. -/
  isPlain : Bool
  deriving DecidableEq, Repr

inductive Raw where
  | null
  | bool (b : Bool)
  /-- A number, which is nothing if it is too large. -/
  | number (value? : Option Json)
  | text (t : RawText)
  | items (rs : List Raw)
  | members (ms : List (RawText × Raw))
  deriving Inhabited, Repr

namespace Raw

/-- What holds of a container if it holds of its parts holds of every document. -/
@[elab_as_elim, induction_eliminator]
theorem induct {motive : Raw → Prop} (null : motive .null) (bool : ∀ b, motive (.bool b))
    (number : ∀ v, motive (.number v)) (text : ∀ t, motive (.text t))
    (items : ∀ rs, (∀ r ∈ rs, motive r) → motive (.items rs))
    (members : ∀ ms, (∀ m ∈ ms, motive m.2) → motive (.members ms)) : ∀ d, motive d
  | .null => null
  | .bool b => bool b
  | .number v => number v
  | .text t => text t
  | .items rs => items rs fun r _ => induct null bool number text items members r
  | .members ms => members ms fun m _ => induct null bool number text items members m.2
termination_by d => sizeOf d
decreasing_by
  · have := List.sizeOf_lt_of_mem ‹r ∈ rs›
    simp only [Raw.items.sizeOf_spec]
    omega
  · have := List.sizeOf_lt_of_mem ‹m ∈ ms›
    have : sizeOf m.2 < sizeOf m := by
      cases m
      simp only [Prod.mk.sizeOf_spec]
      omega
    simp only [Raw.members.sizeOf_spec]
    omega

/-! ## Values -/

/-- The value of a document, all of which must have one; containers may be nested `room` deep. -/
def value? : Nat → Raw → Option Json
  | _, .null => some .null
  | _, .bool b => some (.bool b)
  | _, .number v => v
  | _, .text t => t.value?.map .str
  | 0, .items _ => none
  | 0, .members _ => none
  | room + 1, .items rs => (rs.mapM (value? room)).map .arr
  | room + 1, .members ms =>
    (ms.mapM fun ((k : RawText), r) => do some (← k.value?, ← value? room r)).map Json.ofMembers

def ofText (s : String) : Raw := .text ⟨some s, true⟩

mutual
/-- A value written out. -/
def ofJson : Json → Raw
  | .null => .null
  | .bool b => .bool b
  | .int n => .number (some (.int n))
  | .double x => .number (some (.double x))
  | .str s => ofText s
  | .arr js => .items (ofItems js)
  | .obj ms => .members (ofMembers ms)

def ofItems : List Json → List Raw
  | [] => []
  | j :: rest => ofJson j :: ofItems rest

def ofMembers : List (String × Json) → List (RawText × Raw)
  | [] => []
  | (k, j) :: rest => (⟨some k, true⟩, ofJson j) :: ofMembers rest
end

/-! ## Leaves -/

def isNull : Raw → Bool
  | .null => true
  | _ => false

def bool? : Raw → Option Bool
  | .bool b => some b
  | _ => none

def str? : Raw → Option String
  | .text t => t.value?
  | _ => none

/-- A text that is written as it reads. -/
def plainStr? : Raw → Option String
  | .text t => if t.isPlain then t.value? else none
  | _ => none

/-- An integer between two bounds. -/
def intWithin? (low high : Int) : Raw → Option Int
  | .number (some (.int n)) => if low ≤ n ∧ n ≤ high then some n else none
  | _ => none

/-- An integer that 64 bits with a sign hold. -/
def int64? : Raw → Option Int := intWithin? (-Nat.pow 2 63) (Nat.pow 2 63 - 1)

def int32? : Raw → Option Int := intWithin? (-Nat.pow 2 31) (Nat.pow 2 31 - 1)

end Raw

end VaultProjection.Json
