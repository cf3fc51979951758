import VaultProjection.Text.Basic
import VaultProjection.Text.CaseFold
import VaultProjection.Text.Category
/-!
Sets of characters: ranges, properties of characters, and what union, intersection, complement and
case folding make of them.
-/

namespace VaultProjection.Pattern

inductive CharSet where
  | none
  | range (first last : Char)
  /-- The characters of words. -/
  | word
  | blank
  | categories (ks : List Text.Category)
  | union (a b : CharSet)
  | inter (a b : CharSet)
  | compl (a : CharSet)
  /-- The members and the other cases of their letters, or of those of ASCII alone. -/
  | folded (wide : Bool) (a : CharSet)
  deriving DecidableEq, Repr

namespace CharSet

/-- The other cases of a letter. -/
def others (wide : Bool) (c : Char) : List Char :=
  if wide then Text.otherCases c else (Text.otherAsciiCase c).toList

def contains : CharSet → Char → Bool
  | none, _ => false
  | range first last, c => first ≤ c && c ≤ last
  | word, c => Text.isWordChar c
  | blank, c => Text.isBlank c
  | categories ks, c => ks.contains (Text.category c)
  | union a b, c => a.contains c || b.contains c
  | inter a b, c => a.contains c && b.contains c
  | compl a, c => !a.contains c
  | folded wide a, c => a.contains c || (others wide c).any a.contains

def single (c : Char) : CharSet := range c c

/-- The characters of `a` that are not in `b`. -/
def diff (a b : CharSet) : CharSet := inter a (compl b)

/-- The characters that are in just one of two sets. -/
def symmDiff (a b : CharSet) : CharSet := union (diff a b) (diff b a)

def all : CharSet := compl none

def unions (sets : List CharSet) : CharSet := sets.foldl union none

/-! ## Sets with a name -/

/-- The ranges between the first and second character, the third and fourth, and so on. -/
def ofEnds : List Char → CharSet
  | first :: last :: rest => union (range first last) (ofEnds rest)
  | _ => none

/-- Sets of ASCII characters by their name. -/
def ascii? (name : String) : Option CharSet :=
  ([("alnum", "09AZaz"), ("alpha", "AZaz"), ("ascii", "\x00\x7f"), ("blank", "\t\t  "),
    ("cntrl", "\x00\x1f\x7f\x7f"), ("digit", "09"), ("graph", "!~"), ("lower", "az"),
    ("print", " ~"), ("punct", "!/:@[\x60\x7b~"), ("space", "\t\r  "), ("upper", "AZ"),
    ("word", "09AZ__az"), ("xdigit", "09AFaf")].lookup name).map fun ends => ofEnds ends.toList

/-- The set of a general category by its letter. -/
def category? (letter : Char) : Option CharSet :=
  match letter.toLower with
  | 'l' => some (categories [.letter])
  | 'm' => some (categories [.mark])
  | 'n' => some (categories [.digit, .otherNumber])
  | 'p' => some (categories [.connector, .otherPunctuation])
  | 's' => some (categories [.symbol])
  | 'z' => some (categories [.separator])
  | 'c' => some (categories [.other])
  | _ => Option.none

end CharSet

end VaultProjection.Pattern
