import VaultProjection.Bytes
import VaultProjection.Json.Read
import VaultProjection.Json.Write
import VaultProjection.Text.Quoted
/-!
Where reading a JSON text stops, and at what. The texts, words and numbers of a document are
followed byte by byte. A byte that cannot stand where it does is a fault at its place; what is left
of the text tells the place.
-/

namespace VaultProjection.Json

/-! ## Faults -/

/-- The first thing in a text that its reader cannot use. -/
structure Fault where
  /-- The value that stands where another was wanted; empty if the text is no JSON there. -/
  found : String
  /-- What is left of the text behind the place. -/
  rest : Bytes
  /-- The rest of the innermost container may still move the place. -/
  isOpen : Bool
  deriving DecidableEq, Repr

namespace Fault

/-- A fault at the next byte, or at the end of the text. -/
def next (b : Bytes) : Fault := ⟨"", b.tail, false⟩

/-- A fault behind what has been read. -/
def before (b : Bytes) : Fault := ⟨"", b, false⟩

/-- The line of a place, counted from one, and how many bytes of the line stand before it. -/
def place (f : Fault) (whole : Bytes) : Nat × Nat :=
  let done := whole.take (whole.length - f.rest.length)
  (done.count 10 + 1, (done.reverse.takeWhile (· ≠ 10)).length)

/-- What is said of a fault in a text. -/
def text (f : Fault) (whole : Bytes) : String :=
  let (line, column) := f.place whole
  f.found ++ " at line " ++ toString line ++ " column " ++ toString column

end Fault

/-- What is left of a text behind a part of it. -/
abbrev Rest := Except Fault Bytes

/-- How a value is called that stands where another was wanted. -/
def naming : Json → String
  | .null => "null"
  | .bool b => "boolean \x60" ++ (if b then "true" else "false") ++ "\x60"
  | .int n => "integer \x60" ++ toString n ++ "\x60"
  | .double x => "floating point \x60" ++ (Json.double x).compact ++ "\x60"
  | .str s => "string " ++ Text.quoted s
  | .arr _ => "sequence"
  | .obj _ => "map"

/-! ## Words and numbers -/

def isSpaceByte (b : UInt8) : Bool := b == 32 || b == 10 || b == 9 || b == 13

def isDigitByte (b : UInt8) : Bool := 48 ≤ b && b ≤ 57

def skipSpace (b : Bytes) : Bytes := b.dropWhile isSpaceByte

/-- Behind a word, of which these bytes are missing. -/
def behindWord : Bytes → Bytes → Rest
  | [], rest => .ok rest
  | _ :: _, [] => .error (.before [])
  | w :: ws, b :: rest => if b = w then behindWord ws rest else .error (.before rest)

/-- Behind at least one digit. -/
def behindDigits : Bytes → Rest
  | b :: rest => if isDigitByte b then .ok (rest.dropWhile isDigitByte) else .error (.before rest)
  | [] => .error (.before [])

/-- Behind digits without a leading zero. -/
def behindWhole (b : Bytes) : Rest :=
  match b with
  | 48 :: d :: rest => if isDigitByte d then .error (.before rest) else .ok (d :: rest)
  | b => behindDigits b

def behindFraction : Bytes → Rest
  | 46 :: rest => behindDigits rest
  | rest => .ok rest

def behindSign : Bytes → Bytes
  | 43 :: rest => rest
  | 45 :: rest => rest
  | rest => rest

def behindPower : Bytes → Rest
  | 101 :: rest => behindDigits (behindSign rest)
  | 69 :: rest => behindDigits (behindSign rest)
  | rest => .ok rest

/-- Behind a number, whose sign may stand before it. -/
def behindNumber (b : Bytes) : Rest := do
  let b ← behindWhole (match b with
    | 45 :: rest => rest
    | b => b)
  behindPower (← behindFraction b)

/-! ## Texts -/

/-- The value of four hexadecimal digits. -/
def unitValue? (digits : Bytes) : Option Nat :=
  digits.foldlM (fun v b => (hexValue? (Char.ofNat b.toNat)).map (v * 16 + ·)) 0

/-- Behind a text, from a place inside it. In a text that is kept the halves of surrogate pairs must
match, and `wantsLow` says that a low half must come next. -/
def behindText (isKept wantsLow : Bool) : Bytes → Rest
  | [] => .error (.before [])
  | 92 :: 117 :: a :: b :: c :: d :: rest =>
    match unitValue? [a, b, c, d] with
    | none => .error (.before rest)
    | some v =>
      let isLow : Bool := 0xDC00 ≤ v ∧ v ≤ 0xDFFF
      let isHigh : Bool := 0xD800 ≤ v ∧ v ≤ 0xDBFF
      if isKept && isLow != wantsLow then .error (.before rest)
      else behindText isKept (isKept && isHigh) rest
  | 92 :: 117 :: _ => .error (.before [])
  | 92 :: [] => .error (.before [])
  | 92 :: e :: rest =>
    if wantsLow || (simpleEscape? (Char.ofNat e.toNat)).isNone then .error (.before rest)
    else behindText isKept false rest
  | b :: rest =>
    if wantsLow then .error (.before rest)
    else if b = 34 then .ok rest
    else if b < 32 then .error (.before (if isKept then rest else b :: rest))
    else behindText isKept false rest

/-! ## Leaves -/

/-- Behind a value that is no container. -/
def behindLeaf (isKept : Bool) (b : Bytes) : Rest :=
  match b with
  | 110 :: rest => behindWord [117, 108, 108] rest
  | 116 :: rest => behindWord [114, 117, 101] rest
  | 102 :: rest => behindWord [97, 108, 115, 101] rest
  | 34 :: rest => behindText isKept false rest
  | c :: _ => if c = 45 || isDigitByte c then behindNumber b else .error (.next b)
  | [] => .error (.next [])

/-- The value of a leaf and what is left behind it. A number that is too large is a fault. -/
def leaf (b : Bytes) : Except Fault (Json × Bytes) := do
  let rest ← behindLeaf true b
  match (Bytes.toText? (b.take (b.length - rest.length))).bind read? with
  | some j => .ok (j, rest)
  | none => .error (.before rest)

end VaultProjection.Json
