import VaultProjection.Text.Basic
import VaultProjection.Web.Percent
/-!
Paths of web addresses: segments between slashes. A segment of one dot stands for nothing, one of
two dots takes the segment before it away, unless that is the name of a drive. Characters that a
path cannot hold are spelled as bytes with percent signs.
-/

namespace VaultProjection.Web

/-! ## Characters -/

/-- The characters that stand for themselves in a path. -/
def isPathChar (c : Char) : Bool :=
  0x20 < c.toNat && c.toNat < 0x7F && !"\"#<>?\x60\x7b\x7d".toList.contains c

def pathChars (cs : List Char) : List Char := percentEncoded isPathChar cs

/-- Tabs and line breaks do not count in an address. -/
def isIgnored (c : Char) : Bool := c = '\t' || c = '\n' || c = '\r'

/-! ## Segments -/

/-- One dot, also in its spelling with a percent sign. -/
def isOneDot (segment : String) : Bool := ["." , "%2e"].contains (Text.lowered segment)

def isTwoDots (segment : String) : Bool :=
  ["..", ".%2e", "%2e.", "%2e%2e"].contains (Text.lowered segment)

/-- A letter and a colon or bar: the name of a drive. -/
def isDrive (segment : String) : Bool :=
  match segment.toList with
  | [a, b] => a.isAlpha && (b = ':' || b = '|')
  | _ => false

/-- Without the last segment, if it can be taken away. -/
def parent (path : List String) : List String :=
  if path.getLast?.any isDrive then path else path.dropLast

/-- Adds a segment; `last` if no slash follows it, in which case dots leave an empty segment. -/
def addSegment (path : List String) (segment : String) (last : Bool) : List String :=
  if isTwoDots segment then parent path ++ (if last then [""] else [])
  else if isOneDot segment then path ++ (if last then [""] else [])
  else path ++ [segment]

def addSegments (path : List String) : List String → List String
  | [] => path
  | [s] => addSegment path s true
  | s :: rest => addSegments (addSegment path s false) rest

/-- The path of a text without its first slash. -/
def readPath (cs : List Char) : List String :=
  let cs := (cs.filter (!isIgnored ·)).map fun c => if c = '\\' then '/' else c
  addSegments [] ((Text.pieces '/' cs).map fun s => String.ofList (pathChars s))

/-- A path with a slash before every segment. -/
def pathText (path : List String) : String := String.join (path.map ("/" ++ ·))

end VaultProjection.Web
