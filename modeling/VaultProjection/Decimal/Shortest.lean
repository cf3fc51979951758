import VaultProjection.Decimal.Double
/-!
The shortest decimal digits that read back as a given double, and the two ways to write them: with
an exponent for very large and very small numbers, or always positional.
-/

namespace VaultProjection.Decimal

/-! ## Digits -/

/-- The decimal exponent of a positive fraction: `10 ^ k ≤ num / den < 10 ^ (k + 1)`. -/
def magnitude (num den : Nat) : Int :=
  if den ≤ num then ((Nat.toDigits 10 (num / den)).length : Int) - 1
  else
    let n := Nat.log2 den - Nat.log2 num
    let guess := n * 30103 / 100000
    -- the guess is at most one or two below the power that lifts the number to one
    if den ≤ num * Nat.pow 10 guess then -(guess : Int)
    else if den ≤ num * Nat.pow 10 (guess + 1) then -(guess + 1 : Int)
    else -(guess + 2 : Int)

/-- `num / den` over `10 ^ k`, as a fraction of naturals. -/
def overPower (num den : Nat) (k : Int) : Nat × Nat :=
  if 0 ≤ k then (num, den * Nat.pow 10 k.toNat) else (num * Nat.pow 10 (-k).toNat, den)

/-- The interval of reals that round to `x`, as fractions over the common denominator, with its
ends included or not. -/
structure Interval where
  low : Nat
  value : Nat
  high : Nat
  den : Nat
  closed : Bool

def interval (x : Double) : Interval :=
  let m := x.mantissa
  let below := if x.fraction = 0 ∧ 1 < x.exponent then 1 else 2
  let (n, d) :=
    if 0 ≤ x.scale then (Nat.pow 2 x.scale.toNat, 4) else (1, 4 * Nat.pow 2 (-x.scale).toNat)
  ⟨(4 * m - below) * n, 4 * m * n, (4 * m + 2) * n, d, m % 2 = 0⟩

/-- Whether `c · 10 ^ k` lies in the interval. -/
def Interval.holds (i : Interval) (c : Nat) (k : Int) : Bool :=
  let (num, den) := if 0 ≤ k then (c * Nat.pow 10 k.toNat, 1) else (c, Nat.pow 10 (-k).toNat)
  let v := num * i.den
  if i.closed then i.low * den ≤ v && v ≤ i.high * den else i.low * den < v && v < i.high * den

/-- The point of the grid `10 ^ k` that reads back and is nearest to the value, if there is one. -/
def Interval.onGrid? (i : Interval) (k : Int) : Option Nat :=
  let (num, den) := overPower i.value i.den k
  let c := num / den
  match i.holds c k, i.holds (c + 1) k with
  | true, true => some (if 2 * (num % den) < den then c else if den < 2 * (num % den) then c + 1
      else c + c % 2)
  | true, false => some c
  | false, true => some (c + 1)
  | false, false => none

/-- Tries grids from coarse to fine, `n` of them. -/
def Interval.firstGrid (i : Interval) : Nat → Int → Nat × Int
  | 0, k => let (num, den) := overPower i.value i.den k; (num / den, k)
  | n + 1, k => match i.onGrid? k with
    | some c => (c, k)
    | none => firstGrid i n (k - 1)

/-- Without the zeros at the end, each of which raises the exponent. -/
def stripZeros : Nat → Nat → Int → Nat × Int
  | 0, c, k => (c, k)
  | n + 1, c, k => if c ≠ 0 ∧ c % 10 = 0 then stripZeros n (c / 10) (k + 1) else (c, k)

/-- Digits `c` and exponent `k` such that `c · 10 ^ k` is the shortest decimal that reads back as
the positive finite double `x`. -/
def shortest (x : Double) : Nat × Int :=
  let i := interval x
  let (c, k) := i.firstGrid 17 (magnitude i.value i.den)
  stripZeros 20 c k

/-! ## Notation -/

/-- Positional digits of `c · 10 ^ k`. -/
def positional (c : Nat) (k : Int) : List Char :=
  let ds := Nat.toDigits 10 c
  if 0 ≤ k then ds ++ List.replicate k.toNat '0'
  else
    let places := (-k).toNat
    if places < ds.length then ds.take (ds.length - places) ++ '.' :: ds.drop (ds.length - places)
    else '0' :: '.' :: List.replicate (places - ds.length) '0' ++ ds

/-- Digits with a point after the first and an exponent with its sign. -/
def scientific (c : Nat) (k : Int) : List Char :=
  let ds := Nat.toDigits 10 c
  let e := k + ds.length - 1
  let mantissa := match ds with
    | [] => []
    | [d] => [d]
    | d :: rest => d :: '.' :: rest
  mantissa ++ 'e' :: (if e < 0 then '-' else '+') :: Nat.toDigits 10 e.natAbs

/-- Positional from 1e-5 up to below 1e16, and then with a point; else with an exponent. -/
def jsonText (x : Double) : String :=
  let sign := if x.isNegative then ['-'] else []
  if x.isZero then String.ofList (sign ++ "0.0".toList)
  else
    let (c, k) := shortest x
    let e := k + (Nat.toDigits 10 c).length - 1
    String.ofList (sign ++
      if -5 ≤ e ∧ e < 16 then
        if 0 ≤ k then positional c k ++ ['.', '0'] else positional c k
      else scientific c k)

/-- Positional, without a point for whole numbers. -/
def plainText (x : Double) : String :=
  let sign := if x.isNegative then ['-'] else []
  if x.isNaN then "NaN"
  else if !x.isFinite then String.ofList (sign ++ "inf".toList)
  else if x.isZero then String.ofList (sign ++ ['0'])
  else
    let (c, k) := shortest x
    String.ofList (sign ++ positional c k)

end VaultProjection.Decimal
