import VaultProjection.Bytes
/-!
Base64 with the standard alphabet. Writing pads to whole groups of four. Reading is strict: padding
is required, only the last group may hold it, and the bits behind the last byte must be zero.

The body of a PEM section is judged by `isLoose`, which skips blanks and ignores those bits.
-/

namespace VaultProjection.Base64

/-! ## The alphabet -/

/-- The digit of a six-bit value. -/
def digit (n : Nat) : UInt8 :=
  if n < 26 then (65 + n).toUInt8
  else if n < 52 then (71 + n).toUInt8
  else if n < 62 then (n - 4).toUInt8
  else if n = 62 then 43 else 47

/-- The six-bit value of a digit. -/
def value? (b : UInt8) : Option Nat :=
  let n := b.toNat
  if 65 ≤ n ∧ n ≤ 90 then some (n - 65)
  else if 97 ≤ n ∧ n ≤ 122 then some (n - 71)
  else if 48 ≤ n ∧ n ≤ 57 then some (n + 4)
  else if n = 43 then some 62
  else if n = 47 then some 63
  else none

/-- The padding sign. -/
def pad : UInt8 := 61

/-! ## Writing -/

def encode : Bytes → Bytes
  | [] => []
  | [a] =>
    let n := a.toNat <<< 4
    [digit (n >>> 6), digit (n % 64), pad, pad]
  | [a, b] =>
    let n := (a.toNat <<< 8 ||| b.toNat) <<< 2
    [digit (n >>> 12), digit (n >>> 6 % 64), digit (n % 64), pad]
  | a :: b :: c :: rest =>
    let n := a.toNat <<< 16 ||| b.toNat <<< 8 ||| c.toNat
    digit (n >>> 18) :: digit (n >>> 12 % 64) :: digit (n >>> 6 % 64) :: digit (n % 64) ::
      encode rest

/-- The text of the encoding. -/
def encodeText (b : Bytes) : String :=
  String.ofList ((encode b).map fun x => Char.ofNat x.toNat)

/-! ## Reading -/

/-- Why a text is no base64. -/
inductive Fault where
  /-- A byte that is no digit, or padding where none may stand. -/
  | symbol (byte : UInt8) (offset : Nat)
  /-- The last digit has bits beyond the last byte. -/
  | lastSymbol (byte : UInt8) (offset : Nat)
  | length (n : Nat)
  | padding
  deriving DecidableEq, Repr

def Fault.message : Fault → String
  | .symbol b i => s!"Invalid symbol {b.toNat}, offset {i}."
  | .lastSymbol b i => s!"Invalid last symbol {b.toNat}, offset {i}."
  | .length n => s!"Invalid input length: {n}"
  | .padding => "Invalid padding"

/-- The bytes of the first `k` of the three bytes in a 24-bit group. -/
def groupBytes (n k : Nat) : Bytes :=
  [(n >>> 16).toUInt8, (n >>> 8).toUInt8, n.toUInt8].take k

/-- A digit at an offset, or the fault it is. -/
def valueAt (b : UInt8) (i : Nat) : Except Fault Nat :=
  match value? b with
  | some v => .ok v
  | none => .error (.symbol b i)

/-- What the last group holds so far: its digits' values and how many padding signs follow them. -/
structure Tail where
  values : List Nat
  pads : Nat
  firstPad : Nat
  lastDigit : UInt8

/-- Reads the last group, at `offset`: two to four digits and then padding. -/
def readTail (offset : Nat) : Nat → Tail → Bytes → Except Fault Tail
  | _, t, [] => .ok t
  | i, t, b :: rest =>
    if b = pad then
      if i < 2 then .error (.symbol b (offset + i))
      else readTail offset (i + 1)
        { t with pads := t.pads + 1, firstPad := if t.pads = 0 then i else t.firstPad } rest
    else if 0 < t.pads then .error (.symbol pad (offset + t.firstPad))
    else do
      let v ← valueAt b (offset + i)
      readTail offset (i + 1) { t with values := t.values ++ [v], lastDigit := b } rest

/-- The bytes of the last group. -/
def finish (offset : Nat) (b : Bytes) : Except Fault Bytes := do
  let t ← readTail offset 0 ⟨[], 0, 0, 0⟩ b
  let k := t.values.length
  if k < 2 then .error (.length (offset + k))
  else if (t.pads + k) % 4 ≠ 0 then .error .padding
  else
    let n := ((t.values ++ List.replicate (4 - k) 0).foldl (fun acc v => acc <<< 6 ||| v) 0)
    let bytes := k * 6 / 8
    if n % Nat.pow 2 (24 - 8 * bytes) ≠ 0 then .error (.lastSymbol t.lastDigit (offset + k - 1))
    else .ok (groupBytes n bytes)

/-- Reads the groups; four digits that are not the last four hold three bytes. -/
def decodeFrom (offset : Nat) : Bytes → Except Fault Bytes
  | a :: b :: c :: d :: e :: rest => do
    let va ← valueAt a offset
    let vb ← valueAt b (offset + 1)
    let vc ← valueAt c (offset + 2)
    let vd ← valueAt d (offset + 3)
    let more ← decodeFrom (offset + 4) (e :: rest)
    .ok (groupBytes (va <<< 18 ||| vb <<< 12 ||| vc <<< 6 ||| vd) 3 ++ more)
  | tail => finish offset tail

/-- A foreign byte that makes the length one too many is reported before all else. -/
def trailing? (b : Bytes) : Option Fault :=
  if b.length % 4 = 1 then
    match b.getLast? with
    | some x => if x ≠ pad ∧ (value? x).isNone then some (.symbol x (b.length - 1)) else none
    | none => none
  else none

def decode (b : Bytes) : Except Fault Bytes :=
  if b.isEmpty then .ok []
  else match trailing? b with
    | some f => .error f
    | none => decodeFrom 0 b

def decodeText? (s : String) : Option Bytes := (decode (Bytes.ofText s)).toOption

/-! ## PEM bodies -/

/-- White space of a PEM body: tab to carriage return, and space. -/
def isFiller (b : UInt8) : Bool := (9 ≤ b && b ≤ 13) || b == 32

/-- Whether padding follows all digits among some signs, two signs of it at most. -/
def isPadded (b : Bytes) : Bool :=
  let pads := b.dropWhile (· != pad)
  pads.length ≤ 2 && pads.all (· == pad)

/-- Whether a last group of up to four signs stands for bytes: four signs may be padded, two or
three need not be. -/
def isLastGroup (b : Bytes) : Bool :=
  match b.length with
  | 0 => true
  | 2 | 3 => !b.contains pad
  | 4 => isPadded b
  | _ => false

/-- Whether signs stand for bytes. They are read eight at a time; padding may close any eight. -/
def isLooseFrom : Bytes → Bool
  | a :: b :: c :: d :: e :: f :: g :: h :: rest =>
    isPadded [a, b, c, d, e, f, g, h] && isLooseFrom rest
  | a :: b :: c :: d :: e :: rest => !([a, b, c, d].contains pad) && isLastGroup (e :: rest)
  | rest => isLastGroup rest

/-- Whether a PEM body is base64. Blanks and bits behind the last byte are not looked at. -/
def isLoose (b : Bytes) : Bool :=
  let signs := b.filter (!isFiller ·)
  signs.all (fun x => x == pad || (value? x).isSome) && isLooseFrom signs

end VaultProjection.Base64
