/-!
Labels of names in ASCII. A label with other characters is written as its ASCII characters followed
by the positions and code points of the rest, in base 36 with digits whose weights adapt.
-/

namespace VaultProjection.Web.Punycode

/-- Letters stand for 0 to 25, decimal digits for 26 to 35. -/
def digit (n : Nat) : Char :=
  if n < 26 then Char.ofNat (0x61 + n) else Char.ofNat (0x30 + (n - 26))

/-- From which value on the digit at weight `k` is the last one. -/
def threshold (k bias : Nat) : Nat :=
  if k ≤ bias then 1 else if bias + 26 ≤ k then 26 else k - bias

theorem threshold_pos (k bias : Nat) : 1 ≤ threshold k bias := by
  unfold threshold
  split
  · omega
  · split <;> omega

/-! ## Digits -/

/-- A number in digits of adapted weights, the smallest first. -/
def digits (bias k q : Nat) : List Char :=
  let t := threshold k bias
  if q < t then [digit q]
  else digit (t + (q - t) % (36 - t)) :: digits bias (k + 36) ((q - t) / (36 - t))
termination_by q
decreasing_by
  have := threshold_pos k bias
  exact Nat.lt_of_le_of_lt (Nat.div_le_self _ _) (by omega)

def shrink (delta k : Nat) : Nat × Nat :=
  if 455 < delta then shrink (delta / 35) (k + 36) else (delta, k)
termination_by delta
decreasing_by exact Nat.div_lt_self (by omega) (by omega)

/-- The bias for the next number, after one that was the `count`-th. -/
def adapt (delta count : Nat) (first : Bool) : Nat :=
  let d := if first then delta / 700 else delta / 2
  let (d, k) := shrink (d + d / count) 0
  k + 36 * d / (d + 38)

/-! ## Writing -/

structure Encoder where
  out : List Char
  delta : Nat
  bias : Nat
  /-- How many characters have been written. -/
  written : Nat

/-- Looks at one character while all characters with code point `n` are written. -/
def Encoder.see (basic n : Nat) (e : Encoder) (c : Char) : Encoder :=
  if c.toNat < n then { e with delta := e.delta + 1 }
  else if c.toNat = n then
    ⟨e.out ++ digits e.bias 36 e.delta, 0,
      adapt e.delta (e.written + 1) (e.written = basic), e.written + 1⟩
  else e

/-- Writes the characters of the code points, which ascend from `n` on. -/
def encodeFrom (label : List Char) (basic : Nat) : List Nat → Nat → Encoder → Encoder
  | [], _, e => e
  | m :: rest, n, e =>
    let start := { e with delta := e.delta + (m - n) * (e.written + 1) }
    let e := label.foldl (Encoder.see basic m) start
    encodeFrom label basic rest (m + 1) { e with delta := e.delta + 1 }

/-- A label in ASCII, without a mark that it is one. -/
def encode (label : List Char) : List Char :=
  let basic := label.filter (·.toNat < 128)
  let points := (((label.filter (128 ≤ ·.toNat)).map Char.toNat).mergeSort (· ≤ ·)).eraseDups
  let start := if basic.isEmpty then [] else basic ++ ['-']
  (encodeFrom label basic.length points 128 ⟨start, 0, 72, basic.length⟩).out

/-! ## Reading -/

def digitValue? (c : Char) : Option Nat :=
  if 'a' ≤ c ∧ c ≤ 'z' then some (c.toNat - 0x61)
  else if c.isDigit then some (c.toNat - 0x30 + 26)
  else none

/-- No number in a label may be greater than this. -/
def maxNumber : Nat := Nat.pow 2 32 - 1

structure Decoder where
  out : List Char
  /-- The code point that was inserted last. -/
  point : Nat
  /-- The number so far, which goes on from `start`. -/
  number : Nat
  start : Nat
  bias : Nat
  /-- The place of the next digit, and what a one is worth there. -/
  place : Nat
  weight : Nat

def Decoder.step (d : Decoder) (c : Char) : Option Decoder := do
  let v ← digitValue? c
  let number := d.number + v * d.weight
  if maxNumber < number then none
  let t := threshold d.place d.bias
  if v < t then
    let count := d.out.length + 1
    let point := d.point + number / count
    let position := number % count
    if point.isValidChar then
      let out := d.out.take position ++ Char.ofNat point :: d.out.drop position
      let bias := adapt (number - d.start) count (d.start = 0)
      some ⟨out, point, position + 1, position + 1, bias, 36, 1⟩
    else none
  else
    let weight := d.weight * (36 - t)
    if maxNumber < weight then none
    else some { d with number, place := d.place + 36, weight }

/-- The text before the last dash and the text behind it. -/
def splitLast (cs : List Char) : List Char × List Char :=
  let back := cs.reverse.takeWhile (· ≠ '-')
  ((cs.take (cs.length - back.length)).dropLast, back.reverse)

/-- The label that its form in ASCII spells, if it spells one. -/
def decode? (cs : List Char) : Option (List Char) := do
  let (basic, rest) := splitLast cs
  if basic.isEmpty ∧ cs.contains '-' then none
  let d ← rest.foldlM Decoder.step ⟨basic, 128, 0, 0, 72, 36, 1⟩
  if d.place = 36 then some d.out else none

end VaultProjection.Web.Punycode
