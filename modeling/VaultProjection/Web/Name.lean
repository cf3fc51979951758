import VaultProjection.Text.Composed
import VaultProjection.Web.Label
import VaultProjection.Web.NameMap
import VaultProjection.Web.Punycode
/-!
Names of hosts in any script, and their one spelling in ASCII. A name is first brought to a form in
which names that count as the same are equal; then its labels are looked at and spelled one by one.
-/

namespace VaultProjection.Web.Name

/-! ## The common form -/

/-- The text that a name stands for, in composed form. -/
def mapped? (cs : List Char) : Option (List Char) := do
  let texts ← cs.mapM nameText?
  some (Text.composed texts.flatten)

/-- The ASCII characters that no name holds. -/
def isForbidden (c : Char) : Bool :=
  c.toNat ≤ 0x20 || c.toNat = 0x7F || "#%/:<>?@[\\]^|".toList.contains c

def isAscii (cs : List Char) : Bool := cs.all (·.toNat < 128)

/-! ## Labels -/

/-- What a label in ASCII that spells another one starts with. -/
def spelledMark : List Char := "xn--".toList

/-- How long a label may be that is spelled, and how long the spelling of one. -/
def maxLabel : Nat := 1000
def maxSpelling : Nat := 2000

/-- A label in two forms. -/
structure Spelled where
  label : List Char
  ascii : List Char

/-- The label that a spelling stands for; it must be one that the spelling is needed for, in the
common form. -/
def decoded? (spelling : List Char) : Option (List Char) := do
  if maxSpelling < spelling.length then none
  let label ← Punycode.decode? spelling
  if !isAscii label ∧ mapped? label = some label then some label else none

/-- A label of a name in the common form. -/
def spelled? (label : List Char) : Option Spelled := do
  if spelledMark.isPrefixOf label then
    let inner ← decoded? (label.drop spelledMark.length)
    if Label.isSound inner then some ⟨inner, label⟩ else none
  else if isAscii label then some ⟨label, label⟩
  else if label.length ≤ maxLabel ∧ Label.isSound label then
    some ⟨label, spelledMark ++ Punycode.encode label⟩
  else none

/-- The spelling of a name in ASCII, if it is a name. If one label is written from right to left,
all of them must have a direction. -/
def toAscii? (cs : List Char) : Option (List Char) := do
  let cs ← mapped? cs
  if cs.any isForbidden then none
  let labels ← (Text.pieces '.' cs).mapM spelled?
  let isMixed := labels.any fun l => l.label.any fun c => Label.isRightToLeft (Text.direction c)
  if isMixed ∧ !labels.all (fun l => Label.isDirected l.label) then none
  some (['.'].intercalate (labels.map (·.ascii)))

end VaultProjection.Web.Name
