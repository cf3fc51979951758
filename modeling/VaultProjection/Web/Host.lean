import VaultProjection.Text.Basic
import VaultProjection.Web.Name
import VaultProjection.Web.Percent
/-!
Hosts of web addresses: numbers of either length and names. Every host has one spelling in ASCII;
whatever ends in a number is an address of 32 bits or nothing.
-/

namespace VaultProjection.Web.Host

/-! ## Numbers -/

/-- Digits of a base as a number. -/
def number? (base : Nat) (cs : List Char) : Option Nat :=
  cs.foldlM (fun n c => do
    let d ← hexDigit? c
    if d < base then some (n * base + d) else none) 0

/-- A part of a dotted number: decimal, octal behind a zero, or hexadecimal behind `0x`. -/
def part? : List Char → Option Nat
  | [] => none
  | '0' :: 'x' :: ds => number? 16 ds
  | '0' :: 'X' :: ds => number? 16 ds
  | '0' :: d :: ds => number? 8 (d :: ds)
  | ds => number? 10 ds

/-- The parts between dots, without an empty one behind the last dot. -/
def parts (cs : List Char) : List (List Char) :=
  let ps := Text.pieces '.' cs
  if 1 < ps.length ∧ ps.getLast? = some [] then ps.dropLast else ps

/-- The last part is a number, or at least looks like one. -/
def endsInNumber (cs : List Char) : Bool :=
  match (parts cs).getLast? with
  | none | some [] => false
  | some p => p.all Char.isDigit || (part? p).isSome

/-- The value of a dotted number; its last part fills all bytes that are left. -/
def dotted? (cs : List Char) : Option Nat := do
  let ns ← (parts cs).mapM part?
  let last ← ns.getLast?
  let front := ns.dropLast
  if 4 < ns.length ∨ front.any (255 < ·) ∨ Nat.pow 256 (5 - ns.length) ≤ last then none
  else some (front.zipIdx.foldl (fun sum (n, i) => sum + n * Nat.pow 256 (3 - i)) last)

def dottedText (n : Nat) : String :=
  String.intercalate "." ([3, 2, 1, 0].map fun i => toString (n / Nat.pow 256 i % 256))

/-! ## Numbers in brackets -/

/-- Groups of up to four digits between colons; the last one may be a dotted number. -/
def groups? : List (List Char) → Option (List Nat)
  | [] => some []
  | [g] =>
    if g.contains '.' then do
      let ps := Text.pieces '.' g
      if ps.length ≠ 4 ∨ ps.any (fun p => p.isEmpty ∨ (1 < p.length ∧ p.head? = some '0')) then none
      let bytes ← ps.mapM (number? 10)
      match bytes with
      | [a, b, c, d] => if bytes.any (255 < ·) then none else some [a * 256 + b, c * 256 + d]
      | _ => none
    else if g.isEmpty ∨ 4 < g.length then none
    else (number? 16 g).map ([·])
  | g :: rest =>
    if g.isEmpty ∨ 4 < g.length then none
    else do some ((← number? 16 g) :: (← groups? rest))

/-- The text before and after the first double colon. -/
def cutDouble? : List Char → Option (List Char × List Char)
  | ':' :: ':' :: rest => some ([], rest)
  | c :: rest => (cutDouble? rest).map fun (a, b) => (c :: a, b)
  | [] => none

def side? (cs : List Char) : Option (List Nat) :=
  if cs.isEmpty then some [] else groups? (Text.pieces ':' cs)

/-- The eight groups; a double colon stands for zeros. -/
def long? (cs : List Char) : Option (List Nat) := do
  match cutDouble? cs with
  | none =>
    let gs ← side? cs
    if gs.length = 8 then some gs else none
  | some (a, b) =>
    if a.contains '.' then none
    let (a, b) := (← side? a, ← side? b)
    if a.length + b.length ≤ 7 then
      some (a ++ List.replicate (8 - a.length - b.length) 0 ++ b)
    else none

/-- The first of the longest runs of zeros, as a start and a length. -/
def longestZeros (gs : List Nat) : Nat × Nat :=
  (List.range gs.length).foldl (fun best i =>
    let n := ((gs.drop i).takeWhile (· = 0)).length
    if best.2 < n then (i, n) else best) (0, 0)

def longText (gs : List Nat) : String :=
  let text (gs : List Nat) : String :=
    String.intercalate ":" (gs.map fun g => String.ofList (Nat.toDigits 16 g))
  let (start, n) := longestZeros gs
  if n < 2 then text gs else text (gs.take start) ++ "::" ++ text (gs.drop (start + n))

/-! ## Hosts -/

/-- A name, or a dotted number if it ends in a number. -/
def name? (cs : List Char) : Option String := do
  let s ← Bytes.toText? (percentDecoded cs)
  let cs ← Name.toAscii? s.toList
  if cs.isEmpty then none
  else if endsInNumber cs then (dotted? cs).map dottedText
  else some (String.ofList cs)

/-- A host as it stands in an address. -/
def read? (cs : List Char) : Option String :=
  match cs with
  | '[' :: rest =>
    if rest.getLast? = some ']' then
      (long? rest.dropLast).map fun gs => "[" ++ longText gs ++ "]"
    else none
  | _ => name? cs

end VaultProjection.Web.Host
