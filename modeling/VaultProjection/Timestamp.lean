import VaultProjection.Text.Basic
/-!
Instants in the calendar, as RFC 3339 writes them. Reading comes in two strengths: the strict form
of the standard, and a lenient one that allows short numbers and blanks between the parts.
-/

namespace VaultProjection

/-- An instant: seconds since the start of 1970 in UTC, and nanoseconds within the second. A leap
second has more than 10^9 nanoseconds. -/
structure Timestamp where
  seconds : Int
  nanos : Nat
  deriving DecidableEq, Repr

namespace Timestamp

/-! ## The calendar -/

/-- Days from the start of 1970 to a date, for any year; the year is counted from March on. -/
def daysOfDate (year : Int) (month day : Nat) : Int :=
  let y := if month ≤ 2 then year - 1 else year
  let era := y.fdiv 400
  let yearOfEra := y - era * 400
  let dayOfYear : Int := (153 * ((month + 9) % 12 : Nat) + 2) / 5 + day - 1
  era * 146097 + yearOfEra * 365 + yearOfEra / 4 - yearOfEra / 100 + dayOfYear - 719468

/-- The year, month and day of a number of days since the start of 1970. -/
def dateOfDays (days : Int) : Int × Nat × Nat :=
  let z := days + 719468
  let era := z.fdiv 146097
  let dayOfEra := z - era * 146097
  let yearOfEra :=
    (dayOfEra - dayOfEra / 1460 + dayOfEra / 36524 - dayOfEra / 146096) / 365
  let dayOfYear := dayOfEra - (365 * yearOfEra + yearOfEra / 4 - yearOfEra / 100)
  let mp := (5 * dayOfYear + 2) / 153
  let day := dayOfYear - (153 * mp + 2) / 5 + 1
  let month := if mp < 10 then mp + 3 else mp - 9
  let year := yearOfEra + era * 400 + (if month ≤ 2 then 1 else 0)
  (year, month.toNat, day.toNat)

def isLeapYear (year : Int) : Bool := year % 4 == 0 && (year % 100 != 0 || year % 400 == 0)

def daysInMonth (year : Int) (month : Nat) : Nat :=
  match month with
  | 2 => if isLeapYear year then 29 else 28
  | 4 | 6 | 9 | 11 => 30
  | _ => 31

/-! ## Writing -/

/-- The digits of `n`, padded with zeros to `width`. -/
def padded (width n : Nat) : String :=
  let ds := Nat.toDigits 10 n
  String.ofList (List.replicate (width - ds.length) '0' ++ ds)

def yearText (year : Int) : String :=
  if 0 ≤ year ∧ year ≤ 9999 then padded 4 year.toNat
  else (if year < 0 then "-" else "+") ++ padded 4 year.natAbs

/-- No digits, or three, six or nine: as few as the fraction needs. -/
def fractionText (nanos : Nat) : String :=
  if nanos = 0 then ""
  else if nanos % 1000000 = 0 then "." ++ padded 3 (nanos / 1000000)
  else if nanos % 1000 = 0 then "." ++ padded 6 (nanos / 1000)
  else "." ++ padded 9 nanos

/-- The instant in UTC. -/
def text (t : Timestamp) : String :=
  let (year, month, day) := dateOfDays (t.seconds.fdiv 86400)
  let s := (t.seconds - t.seconds.fdiv 86400 * 86400).toNat
  let leap := if t.nanos < Nat.pow 10 9 then 0 else 1
  yearText year ++ "-" ++ padded 2 month ++ "-" ++ padded 2 day ++ "T" ++ padded 2 (s / 3600)
    ++ ":" ++ padded 2 (s / 60 % 60) ++ ":" ++ padded 2 (s % 60 + leap)
    ++ fractionText (t.nanos % Nat.pow 10 9) ++ "Z"

/-- The instant without the fraction of its second. -/
def toSeconds (t : Timestamp) : Timestamp := ⟨t.seconds, t.nanos / Nat.pow 10 9 * Nat.pow 10 9⟩

/-! ## Reading -/

/-- How much a reader allows. -/
inductive Strength where
  /-- Numbers have all their digits and nothing stands between the parts. -/
  | strict
  /-- Numbers may be short, and blanks may stand between the parts. -/
  | lenient
  deriving DecidableEq

/-- Reads decimal digits, at most `most` of them. -/
def digits (most : Nat) (cs : List Char) : List Char × List Char :=
  let ds := (cs.take most).takeWhile Char.isDigit
  (ds, cs.drop ds.length)

def valueOf (ds : List Char) : Nat := ds.foldl (fun n c => n * 10 + (c.toNat - 48)) 0

def skipBlanks (strength : Strength) (cs : List Char) : List Char :=
  match strength with
  | .strict => cs
  | .lenient => cs.dropWhile Text.isBlank

/-- A number of `width` digits, or of fewer if the reader is lenient. -/
def number? (strength : Strength) (width : Nat) (cs : List Char) : Option (Nat × List Char) :=
  let (ds, rest) := digits width (skipBlanks strength cs)
  let least := if strength = .strict then width else 1
  if ds.length < least then none else some (valueOf ds, rest)

/-- A year may have a sign, and then any number of digits, if the reader is lenient. -/
def year? (strength : Strength) (cs : List Char) : Option (Int × List Char) :=
  let signed (sign : Int) (rest : List Char) : Option (Int × List Char) :=
    let (ds, after) := digits rest.length rest
    if ds.isEmpty then none else some (sign * valueOf ds, after)
  match strength, skipBlanks strength cs with
  | .lenient, '-' :: rest => signed (-1) rest
  | .lenient, '+' :: rest => signed 1 rest
  | _, cs => (number? strength 4 cs).map fun (n, rest) => (n, rest)

/-- The sign `c`, with blanks before it if the reader is lenient. -/
def sign? (strength : Strength) (c : Char) (cs : List Char) : Option (List Char) :=
  match skipBlanks strength cs with
  | d :: rest => if d = c then some rest else none
  | [] => none

/-- A fraction of a second in nanoseconds; digits after the ninth are dropped. -/
def fraction? : List Char → Option (Nat × List Char)
  | '.' :: rest =>
    let ds := rest.takeWhile Char.isDigit
    if ds.isEmpty then none
    else
      let kept := ds.take 9
      some (valueOf kept * Nat.pow 10 (9 - kept.length), rest.drop ds.length)
  | cs => some (0, cs)

/-- The distance to UTC in seconds: a letter for none, or a sign, hours and minutes. -/
def offset? (strength : Strength) (cs : List Char) : Option (Int × List Char) :=
  match strength, cs with
  | _, 'Z' :: rest => some (0, rest)
  | _, 'z' :: rest => some (0, rest)
  | strength, cs =>
    let named := strength = .lenient ∧ Text.lowered (String.ofList (cs.take 3)) = "utc"
    if named then some (0, cs.drop 3)
    else match cs with
      | s :: a :: b :: rest =>
        if (s = '+' ∨ s = '-' ∨ s = '\u2212') ∧ a.isDigit ∧ b.isDigit then
          let rest := match strength with
            | .strict => rest
            | .lenient => rest.dropWhile fun c => c = ':' ∨ Text.isBlank c
          let rest? := match strength, rest with
            | .strict, ':' :: r => some r
            | .strict, _ => none
            | .lenient, r => some r
          match rest? with
          | some (c :: d :: after) =>
            if c.isDigit ∧ d.isDigit ∧ c.toNat ≤ 53 then
              let total : Int := valueOf [a, b] * 3600 + valueOf [c, d] * 60
              some (if s = '+' then total else -total, after)
            else none
          | _ => none
        else none
      | _ => none

/-- The seconds at which the years from -262143 to 262142 begin and end in UTC. -/
def firstSecond : Int := daysOfDate (-262143) 1 1 * 86400

def endSecond : Int := daysOfDate 262143 1 1 * 86400

/-- Puts the parts together if they name an instant of a year that is known, in UTC as well. -/
def ofParts? (year : Int) (month day hour minute second nanos : Nat) (offset : Int) :
    Option Timestamp :=
  if 1 ≤ month ∧ month ≤ 12 ∧ 1 ≤ day ∧ day ≤ daysInMonth year month ∧ hour < 24 ∧ minute < 60
      ∧ second ≤ 60 ∧ -86400 < offset ∧ offset < 86400 ∧ -262143 ≤ year ∧ year ≤ 262142 then
    let s := daysOfDate year month day * 86400
      + (hour * 3600 + minute * 60 + Nat.min second 59 : Nat) - offset
    if firstSecond ≤ s ∧ s < endSecond then
      some ⟨s, if second = 60 then nanos + Nat.pow 10 9 else nanos⟩
    else none
  else none

def read? (strength : Strength) (s : String) : Option Timestamp := do
  let (year, cs) ← year? strength s.toList
  let (month, cs) ← number? strength 2 (← sign? strength '-' cs)
  let (day, cs) ← number? strength 2 (← sign? strength '-' cs)
  let cs ← match cs with
    | c :: rest => if c = 'T' ∨ c = 't' ∨ c = ' ' then some rest else none
    | [] => none
  let (hour, cs) ← number? strength 2 cs
  let (minute, cs) ← number? strength 2 (← sign? strength ':' cs)
  let (second, cs) ← number? strength 2 (← sign? strength ':' cs)
  let (nanos, cs) ← fraction? cs
  let (offset, cs) ← offset? strength (skipBlanks strength cs)
  if (skipBlanks strength cs).isEmpty then ofParts? year month day hour minute second nanos offset
  else none

end Timestamp

end VaultProjection
