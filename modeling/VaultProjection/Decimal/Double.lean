/-!
Double-precision numbers as words of the binary64 format. Every operation takes the exact value of
its arguments and rounds once, to the nearest double, ties to the even one.
-/

namespace VaultProjection

/-- A double, given by its 64 bits. -/
structure Double where
  bits : UInt64
  deriving DecidableEq, Repr

namespace Double

/-! ## Parts of a double -/

def isNegative (x : Double) : Bool := x.bits >>> 63 == 1

/-- The biased exponent. -/
def exponent (x : Double) : Nat := ((x.bits >>> 52) &&& 0x7FF).toNat

def fraction (x : Double) : Nat := (x.bits &&& 0xFFFFFFFFFFFFF).toNat

def isFinite (x : Double) : Bool := x.exponent != 0x7FF

def isNaN (x : Double) : Bool := !x.isFinite && x.fraction != 0

/-- The integer `m` with `|x| = m · 2 ^ x.scale`. -/
def mantissa (x : Double) : Nat :=
  if x.exponent = 0 then x.fraction else Nat.pow 2 52 + x.fraction

def scale (x : Double) : Int :=
  if x.exponent = 0 then -1074 else (x.exponent : Int) - 1075

def isZero (x : Double) : Bool := x.isFinite && x.mantissa == 0

/-! ## Rounding -/

/-- The largest finite magnitude is below this word, infinity is it. -/
def infinityWord : Nat := 0x7FF * Nat.pow 2 52

def ofWord (negative : Bool) (word : Nat) : Double :=
  ⟨((if negative then Nat.pow 2 63 else 0) + min word infinityWord).toUInt64⟩

def zero : Double := ⟨0⟩
def one : Double := ⟨0x3FF0000000000000⟩
def infinity (negative : Bool) : Double := ofWord negative infinityWord
def nan : Double := ⟨0x7FF8000000000000⟩

/-- `num / den` to the nearest integer, ties to even. -/
def roundedQuotient (num den : Nat) : Nat :=
  let q := num / den
  let r := num % den
  if 2 * r < den then q else if den < 2 * r then q + 1 else q + q % 2

/-- `num / den` over `2 ^ e`, as a fraction of naturals. -/
def scaled (num den : Nat) (e : Int) : Nat × Nat :=
  if 0 ≤ e then (num, den * Nat.pow 2 e.toNat) else (num * Nat.pow 2 (-e).toNat, den)

/-- The double nearest to `± num / den`. -/
def ofRatio (negative : Bool) (num den : Nat) : Double :=
  if num = 0 then ofWord negative 0
  else
    let guess := (Nat.log2 num : Int) - Nat.log2 den - 53
    let (n, d) := scaled num den guess
    let e := max (if n / d < Nat.pow 2 53 then guess else guess + 1) (-1074)
    let (n, d) := scaled num den e
    ofWord negative ((e + 1074).toNat * Nat.pow 2 52 + roundedQuotient n d)

def ofNat (n : Nat) : Double := ofRatio false n 1

/-- The double nearest to `± m · 10 ^ e`. -/
def ofDecimal (negative : Bool) (m : Nat) (e : Int) : Double :=
  if 0 ≤ e then ofRatio negative (m * Nat.pow 10 e.toNat) 1
  else ofRatio negative m (Nat.pow 10 (-e).toNat)

/-- The magnitude as a fraction of naturals. -/
def ratio (x : Double) : Nat × Nat :=
  if 0 ≤ x.scale then (x.mantissa * Nat.pow 2 x.scale.toNat, 1)
  else (x.mantissa, Nat.pow 2 (-x.scale).toNat)

/-! ## Arithmetic -/

def neg (x : Double) : Double := ⟨x.bits ^^^ 0x8000000000000000⟩

/-- Product of finite doubles. -/
def mul (x y : Double) : Double :=
  let (a, b) := x.ratio
  let (c, d) := y.ratio
  ofRatio (x.isNegative != y.isNegative) (a * c) (b * d)

/-- Quotient of finite doubles, the second one not zero. -/
def div (x y : Double) : Double :=
  let (a, b) := x.ratio
  let (c, d) := y.ratio
  ofRatio (x.isNegative != y.isNegative) (a * d) (b * c)

/-- The exact value over the common denominator `2 ^ 1074`. -/
def units (x : Double) : Int :=
  let n : Int := x.mantissa * Nat.pow 2 (x.scale + 1074).toNat
  if x.isNegative then -n else n

def add (x y : Double) : Double :=
  if x.isNaN || y.isNaN then nan
  else if !x.isFinite then (if y.isFinite || x = y then x else nan)
  else if !y.isFinite then y
  else
    let s := x.units + y.units
    ofRatio (if s = 0 then x.isNegative && y.isNegative else decide (s < 0)) s.natAbs
      (Nat.pow 2 1074)

/-- The order of the values; nothing is below or above a NaN. -/
def le (x y : Double) : Bool :=
  if x.isNaN || y.isNaN then false
  else
    let key (z : Double) : Int :=
      let n : Int := (z.bits &&& 0x7FFFFFFFFFFFFFFF).toNat
      if z.isNegative then -n else n
    key x ≤ key y

end Double

end VaultProjection
