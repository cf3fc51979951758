import VaultProjection.Decimal.Numeral
import VaultProjection.Json.Basic
/-!
What plain scalars mean: nothing, truth values, integers with a radix, and decimal numbers. All
other plain scalars are text.
-/

namespace VaultProjection.Yaml.Core

open Numeral (nat? mantissa? exponent?)

def isNull (s : List Char) : Bool :=
  ["null", "Null", "NULL", "~"].any fun t => t.toList == s

def bool? (s : List Char) : Option Bool :=
  if ["true", "True", "TRUE"].any fun t => t.toList == s then some true
  else if ["false", "False", "FALSE"].any fun t => t.toList == s then some false
  else none

/-! ## Integers -/

/-- The digits and radix behind the mark of a radix. -/
def radixed? : List Char → Option (Nat × List Char)
  | '0' :: 'x' :: rest => some (16, rest)
  | '0' :: 'o' :: rest => some (8, rest)
  | '0' :: 'b' :: rest => some (2, rest)
  | _ => none

/-- A zero in front of further digits makes a text. -/
def hasLeadingZero (s : List Char) : Bool :=
  let s := match s with
    | '-' :: rest => rest
    | '+' :: rest => rest
    | s => s
  match s with
  | '0' :: c :: rest => (c :: rest).all Char.isDigit
  | _ => false

/-- The absolute value of a number without sign, below a limit. -/
def magnitude? (limit : Nat) (s : List Char) : Option Nat :=
  let marked := (radixed? s).bind fun (r, ds) => (nat? r ds).filter (· < limit)
  marked.orElse fun _ => if hasLeadingZero s then none else (nat? 10 s).filter (· < limit)

/-- An integer: with a plus sign or none below `limit`, with a minus sign down to half of it. -/
def int? (limit : Nat) (s : List Char) : Option Int :=
  match s with
  | '-' :: rest => (magnitude? (limit / 2 + 1) rest).map fun n => -(n : Int)
  | '+' :: rest => (magnitude? limit rest).map fun n => (n : Int)
  | s => (magnitude? limit s).map fun n => (n : Int)

/-! ## Decimal numbers -/

/-- The double nearest to a decimal number; numbers far out of the range are infinite or zero. -/
def nearest (negative : Bool) (digits : List Char) (e : Int) : Double :=
  let digits := digits.dropWhile (· = '0')
  let size := digits.length + e
  if digits.isEmpty ∨ size < -400 then .ofRatio negative 0 1
  else if 400 < size then .infinity negative
  else .ofDecimal negative ((nat? 10 digits).getD 0) e

/-- A decimal number without a plus sign, if it is finite. -/
def decimal? (s : List Char) : Option Double := do
  let (negative, s) := match s with
    | '-' :: rest => (true, rest)
    | s => (false, s)
  let (whole, fraction, rest) ← mantissa? s
  let e ← exponent? rest
  let x := nearest negative (whole ++ fraction) (e - fraction.length)
  if x.isFinite then some x else none

/-- A number that is no integer; infinities and what is not a number have words of their own. -/
def double? (s : List Char) : Option Double :=
  let unsigned? := match s with
    | '+' :: c :: rest => if c = '+' ∨ c = '-' then none else some (c :: rest)
    | '+' :: [] => some []
    | s => some s
  match unsigned? with
  | none => none
  | some t =>
    let word := String.ofList t
    if word = ".inf" ∨ word = ".Inf" ∨ word = ".INF" then some (.infinity false)
    else if word = "-.inf" ∨ word = "-.Inf" ∨ word = "-.INF" then some (.infinity true)
    else if s = t ∧ (word = ".nan" ∨ word = ".NaN" ∨ word = ".NAN") then some .nan
    else decimal? t

/-! ## JSON values -/

/-- A number that JSON has no digits for is `null`. -/
def ofDouble (x : Double) : Json := if x.isFinite then .double x else .null

/-- An integer in JSON, unless it has more than 64 bits. -/
def ofInt (n : Int) : Option Json :=
  if -Nat.pow 2 63 ≤ n ∧ n < Nat.pow 2 64 then some (.int n) else none

/-- An integer of up to 128 bits. -/
def wideInt? (s : List Char) : Option Int := int? (Nat.pow 2 128) s

/-- The meaning of a plain scalar; none for an integer that is too wide for JSON. -/
def resolve (text : String) : Option Json :=
  let s := text.toList
  if s.isEmpty || isNull s then some .null
  else match bool? s with
    | some b => some (.bool b)
    | none =>
      match wideInt? s with
      | some n => ofInt n
      | none =>
        match if hasLeadingZero s then none else double? s with
        | some x => some (ofDouble x)
        | none => some (.str text)

end VaultProjection.Yaml.Core
