import VaultProjection.Json.Basic
/-!
Numbers as JSON documents spell them. An integer of at most 64 bits is read exactly. Any other
number becomes a double from its leading digits: as many as fit in 64 bits are kept, the result is
that integer, rounded, times or divided by a rounded power of ten.
-/

namespace VaultProjection.Json

def maxUInt64 : Nat := Nat.pow 2 64 - 1
def maxInt32 : Nat := Nat.pow 2 31 - 1

def isDigit (c : Char) : Bool := '0' ≤ c && c ≤ '9'

def digitValue (c : Char) : Nat := c.toNat - 48

/-! ## Digits that fit -/

/-- A significand that stays below 2^64 and the decimal exponent that belongs to it. -/
structure Significand where
  digits : Nat
  exponent : Int

/-- Takes digits before the point; those that do not fit raise the exponent. -/
def Significand.ofWhole (cs : List Char) : Significand :=
  let rec go (m dropped : Nat) : List Char → Significand
    | [] => ⟨m, dropped⟩
    | c :: rest =>
      if 0 < dropped ∨ maxUInt64 < m * 10 + digitValue c then go m (dropped + 1) rest
      else go (m * 10 + digitValue c) 0 rest
  go 0 0 cs

/-- Takes digits behind the point up to the first one that does not fit. -/
def Significand.fraction (s : Significand) : List Char → Significand
  | [] => s
  | c :: rest =>
    if maxUInt64 < s.digits * 10 + digitValue c then s
    else fraction ⟨s.digits * 10 + digitValue c, s.exponent - 1⟩ rest

/-! ## Scaling -/

/-- The double nearest to a power of ten. -/
def powerOfTen (n : Nat) : Double := Double.ofDecimal false 1 n

/-- `m · 10 ^ e`, each step rounded; none when it is too large. -/
def scale (m : Nat) (e : Int) : Option Double :=
  if 308 < e ∧ m ≠ 0 then none
  else if e < -1000 then some .zero
  else
    let rec down (x : Double) (n : Nat) : Nat → Double
      | 0 => x
      | fuel + 1 =>
        if n ≤ 308 then x.div (powerOfTen n)
        else if x.isZero then x
        else down (x.div (powerOfTen 308)) (n - 308) fuel
    let x := Double.ofNat m
    if m = 0 then some .zero
    else if 0 ≤ e then
      let y := x.mul (powerOfTen e.toNat)
      if y.isFinite then some y else none
    else some (down x (-e).toNat 5)

/-! ## Numbers -/

/-- The parts of a number's text. -/
structure NumberText where
  negative : Bool
  whole : List Char
  fraction : Option (List Char)
  exponent : Option (Bool × List Char)

/-- Splits the text by the grammar: no leading zeros, and digits wherever a part is begun. -/
def NumberText.ofChars (cs : List Char) : Option NumberText :=
  let (negative, cs) := match cs with
    | '-' :: rest => (true, rest)
    | _ => (false, cs)
  let (whole, cs) := cs.span isDigit
  let leadingZero := match whole with
    | '0' :: _ :: _ => true
    | _ => false
  if whole.isEmpty || leadingZero then none
  else
    let (fraction, cs) := match cs with
      | '.' :: rest => (some (rest.takeWhile isDigit), rest.dropWhile isDigit)
      | _ => (none, cs)
    let power? := match cs with
      | [] => some none
      | c :: rest =>
        if c = 'e' ∨ c = 'E' then
          let (down, rest) := match rest with
            | '-' :: r => (true, r)
            | '+' :: r => (false, r)
            | r => (false, r)
          if rest.isEmpty || !rest.all isDigit then none else some (some (down, rest))
        else none
    match fraction, power? with
    | some [], _ => none
    | _, none => none
    | fraction, some exponent => some ⟨negative, whole, fraction, exponent⟩

/-- The exponent's value, cut off where it no longer fits in 31 bits. -/
def exponentValue (ds : List Char) : Option Nat :=
  let n := ds.foldl (fun n c => n * 10 + digitValue c) 0
  if n ≤ maxInt32 then some n else none

/-- The value of a number; none when it is too large for a double. -/
def NumberText.value? (t : NumberText) : Option Json :=
  let sign (x : Double) : Json := .double (if t.negative then x.neg else x)
  let whole := Significand.ofWhole t.whole
  match t.fraction, t.exponent with
  | none, none =>
    if whole.exponent ≠ 0 then sign <$> scale whole.digits whole.exponent
    else if !t.negative then some (.int whole.digits)
    else if whole.digits = 0 ∨ Nat.pow 2 63 < whole.digits then
      some (sign (Double.ofNat whole.digits))
    else some (.int (-(whole.digits : Int)))
  | fraction, exponent =>
    let s := whole.fraction (fraction.getD [])
    match exponent with
    | none => sign <$> scale s.digits s.exponent
    | some (down, ds) =>
      match exponentValue ds with
      | some n => sign <$> scale s.digits (if down then s.exponent - n else s.exponent + n)
      | none => if s.digits = 0 ∨ down then some (sign .zero) else none

end VaultProjection.Json
