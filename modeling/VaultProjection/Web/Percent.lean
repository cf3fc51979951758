import VaultProjection.Bytes
/-!
Bytes spelled with percent signs, as parts of web addresses write what they cannot hold.
-/

namespace VaultProjection.Web

def hexDigit? (c : Char) : Option Nat :=
  if c.isDigit then some (c.toNat - 48)
  else if 'a' ≤ c ∧ c ≤ 'f' then some (c.toNat - 87)
  else if 'A' ≤ c ∧ c ≤ 'F' then some (c.toNat - 55)
  else none

/-- A byte as a percent sign and two digits. -/
def percentSpelled (b : UInt8) : List Char :=
  let hex (n : Nat) : Char := (Nat.digitChar n).toUpper
  ['%', hex (b.toNat / 16), hex (b.toNat % 16)]

/-- A text in which all characters but those of a class are spelled. -/
def percentEncoded (keep : Char → Bool) (cs : List Char) : List Char :=
  cs.flatMap fun c =>
    if keep c then [c] else (Bytes.ofText (String.singleton c)).flatMap percentSpelled

/-- The bytes of a text; a percent sign without two digits behind it stands for itself. -/
def percentDecoded : List Char → Bytes
  | '%' :: a :: b :: rest =>
    match hexDigit? a, hexDigit? b with
    | some x, some y => UInt8.ofNat (x * 16 + y) :: percentDecoded rest
    | _, _ => 37 :: percentDecoded (a :: b :: rest)
  | c :: rest => Bytes.ofText (String.singleton c) ++ percentDecoded rest
  | [] => []

end VaultProjection.Web
