import VaultProjection.Json.Basic
import VaultProjection.Decimal.Shortest
/-!
Compact JSON text: no blanks, members in the order of their names, control characters escaped, and
every double with a point or an exponent.
-/

namespace VaultProjection.Json

/-! ## Strings -/

/-- A character inside a quoted string. -/
def escapedChar (c : Char) : List Char :=
  if c = '"' then ['\\', '"']
  else if c = '\\' then ['\\', '\\']
  else if c = '\n' then ['\\', 'n']
  else if c = '\r' then ['\\', 'r']
  else if c = '\t' then ['\\', 't']
  else if c = '\x08' then ['\\', 'b']
  else if c = '\x0c' then ['\\', 'f']
  else if c.toNat < 32 then
    ['\\', 'u', '0', '0', Nat.digitChar (c.toNat / 16), Nat.digitChar (c.toNat % 16)]
  else [c]

/-- A quoted string in front of `tail`. -/
def quoted (s : String) (tail : List Char) : List Char :=
  '"' :: s.toList.foldr (fun c t => escapedChar c ++ t) ('"' :: tail)

/-! ## Values -/

def intChars : Int → List Char
  | .ofNat n => Nat.toDigits 10 n
  | .negSucc n => '-' :: Nat.toDigits 10 (n + 1)

mutual
/-- The text of a value in front of `tail`. -/
def write (j : Json) (tail : List Char) : List Char :=
  match j with
  | .null => 'n' :: 'u' :: 'l' :: 'l' :: tail
  | .bool true => 't' :: 'r' :: 'u' :: 'e' :: tail
  | .bool false => 'f' :: 'a' :: 'l' :: 's' :: 'e' :: tail
  | .int n => intChars n ++ tail
  | .double x => (Decimal.jsonText x).toList ++ tail
  | .str s => quoted s tail
  | .arr items => '[' :: writeItems items (']' :: tail)
  | .obj ms => '\x7b' :: writeMembers ms ('\x7d' :: tail)

def writeItems (items : List Json) (tail : List Char) : List Char :=
  match items with
  | [] => tail
  | [j] => write j tail
  | j :: rest => write j (',' :: writeItems rest tail)

def writeMembers (ms : List (String × Json)) (tail : List Char) : List Char :=
  match ms with
  | [] => tail
  | [(k, j)] => quoted k (':' :: write j tail)
  | (k, j) :: rest => quoted k (':' :: write j (',' :: writeMembers rest tail))
end

def compact (j : Json) : String := String.ofList (write j [])

end VaultProjection.Json
