/-!
Digits of numbers: whole numbers in a radix, and the parts of a decimal number with a point and an
exponent.
-/

namespace VaultProjection.Numeral

def digit? (radix : Nat) (c : Char) : Option Nat :=
  let v := if c.isDigit then some (c.toNat - 48)
    else if 'a' ≤ c ∧ c ≤ 'z' then some (c.toNat - 87)
    else if 'A' ≤ c ∧ c ≤ 'Z' then some (c.toNat - 55)
    else none
  v.filter (· < radix)

/-- A number of at least one digit. -/
def nat? (radix : Nat) (s : List Char) : Option Nat :=
  if s.isEmpty then none
  else (s.mapM (digit? radix)).map fun ds => ds.foldl (fun n d => n * radix + d) 0

/-- The digits before and behind a point, and what follows them. -/
def mantissa? (s : List Char) : Option (List Char × List Char × List Char) :=
  let whole := s.takeWhile Char.isDigit
  let rest := s.drop whole.length
  let (fraction, rest) := match rest with
    | '.' :: r => (r.takeWhile Char.isDigit, r.dropWhile Char.isDigit)
    | r => ([], r)
  if whole.isEmpty && fraction.isEmpty then none else some (whole, fraction, rest)

/-- The power of ten of an exponent part, zero if there is none. -/
def exponent? : List Char → Option Int
  | [] => some 0
  | e :: rest =>
    if e = 'e' ∨ e = 'E' then
      match rest with
      | '-' :: ds => (nat? 10 ds).map fun n => -(n : Int)
      | '+' :: ds => (nat? 10 ds).map fun n => (n : Int)
      | ds => (nat? 10 ds).map fun n => (n : Int)
    else none

/-- A decimal number without a sign. -/
def isDecimal (s : List Char) : Bool :=
  (mantissa? s).any fun (_, _, rest) => (exponent? rest).isSome

end VaultProjection.Numeral
