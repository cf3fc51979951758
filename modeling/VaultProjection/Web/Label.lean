import VaultProjection.Text.CombiningClass
import VaultProjection.Text.Direction
import VaultProjection.Text.Joining
import VaultProjection.Text.Category
/-!
Rules for the labels of names: what they start with, where signs that join or separate letters may
stand, and which directions of writing go together.
-/

namespace VaultProjection.Web.Label

open Text (Direction)

/-! ## Joiners -/

/-- The first of the joining characters, which those that are transparent do not hide, is one of
some. -/
def meets (types : List Text.Joining) (cs : List Char) : Bool :=
  let next := (cs.dropWhile fun c => Text.joining? c == some .transparent).head?
  (next.bind Text.joining?).any types.contains

/-- A joiner follows a virama. A separator does so too, or keeps letters apart that would join. -/
def joinerFits (before : List Char) (c : Char) (behind : List Char) : Bool :=
  let afterVirama := before.head?.any Text.isVirama
  if c = '\u200d' then afterVirama
  else if c = '\u200c' then
    afterVirama || meets [.left, .both] before && meets [.right, .both] behind
  else true

/-- All joiners fit, where `before` is what stands in front in reverse. -/
def joinersFit (before : List Char) : List Char → Bool
  | [] => true
  | c :: rest => joinerFits before c rest && joinersFit (c :: before) rest

/-- What a label that is not in ASCII must be like. -/
def isSound (label : List Char) : Bool :=
  !label.head?.any Text.isMark && joinersFit [] label

/-! ## Directions -/

def isRightToLeft (d : Direction) : Bool :=
  d == .right || d == .arabicLetter || d == .arabicNumber

/-- A label starts with a letter of its direction and ends with a letter or number of it; numbers of
two kinds do not mix. -/
def isDirected (label : List Char) : Bool :=
  let ds := label.map Text.direction
  let core := (ds.reverse.dropWhile (· == .mark)).reverse
  let within (all last : List Direction) : Bool :=
    core.all all.contains && core.getLast?.any last.contains
  match ds with
  | [] => true
  | .left :: _ => within [.left, .europeanNumber, .neutral, .mark] [.left, .europeanNumber]
  | .right :: _ | .arabicLetter :: _ =>
    let own : List Direction := [.right, .arabicLetter, .arabicNumber, .europeanNumber]
    within (own ++ [.neutral, .mark]) own &&
      !(ds.contains .arabicNumber && ds.contains .europeanNumber)
  | _ => false

end VaultProjection.Web.Label
