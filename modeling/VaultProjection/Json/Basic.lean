import VaultProjection.Decimal.Double
import VaultProjection.Entries
/-!
JSON values. Members of an object are kept sorted by name, each name once, so equal objects are
equal values whatever order they were written in.
-/

namespace VaultProjection

inductive Json where
  | null
  | bool (b : Bool)
  | int (n : Int)
  | double (x : Double)
  | str (s : String)
  | arr (items : List Json)
  | obj (members : List (String × Json))
  deriving BEq, Inhabited, Repr

namespace Json

/-- An object with the given members; of two with one name the later one stays. -/
def ofMembers (members : List (String × Json)) : Json := .obj (Entries.ofList members)

/-- The member of an object; `null` if it is absent or the value is no object. -/
def get (j : Json) (key : String) : Json :=
  match j with
  | .obj ms => (Entries.get? ms key).getD .null
  | _ => .null

def isNull : Json → Bool
  | .null => true
  | _ => false

def str? : Json → Option String
  | .str s => some s
  | _ => none

def bool? : Json → Option Bool
  | .bool b => some b
  | _ => none

def int? : Json → Option Int
  | .int n => some n
  | _ => none

def nat? : Json → Option Nat
  | .int n => if 0 ≤ n then some n.toNat else none
  | _ => none

def arr? : Json → Option (List Json)
  | .arr items => some items
  | _ => none

def obj? : Json → Option (Entries Json)
  | .obj ms => some ms
  | _ => none

/-- `null` for an absent value. -/
def ofOption {α : Type} (f : α → Json) : Option α → Json
  | none => .null
  | some a => f a

def ofText? (s : Option String) : Json := ofOption .str s

/-- The members that are present. -/
def ofPresent (members : List (String × Option Json)) : Json :=
  ofMembers (members.filterMap fun (k, v) => v.map (k, ·))

end Json

end VaultProjection
