import VaultProjection.Text.Basic
import VaultProjection.Web.Percent
/-!
Queries of web addresses: pairs of names and values between ampersands. In both a plus sign stands
for a blank and percent signs spell bytes.
-/

namespace VaultProjection.Web.Query

/-! ## Reading -/

/-- The parts between ampersands as they stand, without empty ones. -/
def parts (cs : List Char) : List (List Char) := (Text.pieces '&' cs).filter (!·.isEmpty)

/-- A name or a value as text. -/
def decoded (cs : List Char) : String :=
  (percentDecoded (cs.map fun c => if c = '+' then ' ' else c)).toTextLossy

/-- The name and value of a part; without an equals sign the value is empty. -/
def pair (part : List Char) : String × String :=
  match Text.cut? '=' part with
  | some (name, value) => (decoded name, decoded value)
  | none => (decoded part, "")

def pairs (cs : List Char) : List (String × String) := (parts cs).map pair

/-! ## Writing -/

/-- The characters that stand for themselves. -/
def isPlain (c : Char) : Bool := c.isAlphanum || c = '*' || c = '-' || c = '.' || c = '_'

/-- A name or a value as it stands in a query. -/
def encoded (s : String) : String :=
  String.ofList (s.toList.flatMap fun c => if c = ' ' then ['+'] else percentEncoded isPlain [c])

def pairText (p : String × String) : String := encoded p.1 ++ "=" ++ encoded p.2

/-- A query with a value for a name instead of all that the name had. The pairs are in the order of
their names, and a pair with an empty value is written as its name alone. -/
def setting (pairs : List (String × String)) (name value : String) : String :=
  let pairs := (pairs.filter (·.1 ≠ name) ++ [(name, value)]).mergeSort
    fun a b => decide (¬ b.1 < a.1)
  "&".intercalate (pairs.map fun p => if p.2.isEmpty then encoded p.1 else pairText p)

end VaultProjection.Web.Query
