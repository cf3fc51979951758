import VaultProjection.Web.Host
import VaultProjection.Web.Path
import VaultProjection.Web.Query
/-!
Web addresses: scheme, host, port, path and query. Blanks around an address and line breaks in it do
not matter, nor do the user and the fragment.
-/

namespace VaultProjection.Web

structure Address where
  host : String
  port : Nat
  /-- The segments of the path. -/
  path : List String
  /-- The names and values of the query. -/
  query : List (String × String)
  deriving DecidableEq, Repr

namespace Address

/-! ## Parts -/

/-- The text without controls and blanks around it and without line breaks. -/
def tidy (s : String) : List Char :=
  let outer (c : Char) : Bool := c.toNat ≤ 0x20
  (Text.dropEnd outer (s.toList.dropWhile outer)).filter (!isIgnored ·)

def isSchemeChar (c : Char) : Bool := c.isAlphanum || c = '+' || c = '-' || c = '.'

/-- The scheme in small letters and the text behind its colon. -/
def scheme? (cs : List Char) : Option (String × List Char) := do
  let (s, rest) ← Text.cut? ':' cs
  if (s.head?.any Char.isAlpha) ∧ s.all isSchemeChar then
    some (Text.lowered (String.ofList s), rest)
  else none

/-- The ports of the schemes whose addresses always have a host. -/
def defaultPort? : String → Option Nat
  | "https" | "wss" => some 443
  | "http" | "ws" => some 80
  | "ftp" => some 21
  | _ => none

def isSlash (c : Char) : Bool := c = '/' || c = '\\'

def isEnd (c : Char) : Bool := isSlash c || c = '?' || c = '#'

/-- Without the user in front of the last at sign. -/
def withoutUser (cs : List Char) : List Char :=
  ((Text.pieces '@' cs).getLast?).getD cs

/-- The host and the port behind it, which is empty if there is none. -/
def splitPort (cs : List Char) : List Char × List Char :=
  let inBrackets := cs.head? = some '[' ∧ cs.contains ']'
  let host := cs.takeWhile (· ≠ if inBrackets then ']' else ':')
  let host := if inBrackets then host ++ [']'] else host
  (host, cs.drop host.length)

/-- The port, if it is none or a number of 16 bits. -/
def port? (fallback : Nat) : List Char → Option Nat
  | [] | [':'] => some fallback
  | ':' :: ds => (Host.number? 10 ds).filter (· < 65536)
  | _ => none

/-! ## Reading -/

/-- The address behind the scheme and its colon. -/
def afterScheme? (fallback : Nat) (cs : List Char) : Option Address := do
  let cs := cs.dropWhile isSlash
  let authority := cs.takeWhile (!isEnd ·)
  let rest := (cs.drop authority.length).takeWhile (· ≠ '#')
  let path := rest.takeWhile (· ≠ '?')
  let (host, port) := splitPort (withoutUser authority)
  let host ← Host.read? host
  let port ← port? fallback port
  some ⟨host, port, readPath (path.drop 1), Query.pairs (rest.drop (path.length + 1))⟩

/-- An address whose scheme has a host. -/
def read? (s : String) : Option Address := do
  let (scheme, rest) ← scheme? (tidy s)
  afterScheme? (← defaultPort? scheme) rest

/-! ## Other schemes -/

/-- A host of a scheme that gives hosts no meaning. -/
def isOpaqueHost (cs : List Char) : Bool :=
  if cs.head? = some '[' then (Host.read? cs).isSome
  else !cs.any fun c => "\x00\t\n\r #/:<>?@[\\]^|".toList.contains c

/-- What may follow two slashes: a user, a host and a port. The host may be empty if it stands
alone. -/
def isOpaque (cs : List Char) : Bool :=
  let authority := cs.takeWhile fun c => c ≠ '/' ∧ c ≠ '?' ∧ c ≠ '#'
  let behind := withoutUser authority
  let user := authority.take (authority.length - behind.length - 1)
  let (host, port) := splitPort behind
  if host.isEmpty then
    let atEnd := authority.length = cs.length ∨ behind.length = authority.length
    port.isEmpty && (user = [':'] || user.isEmpty && atEnd)
  else isOpaqueHost host && (port? 0 (port.takeWhile (· ≠ '\\'))).isSome

/-- What may follow the scheme of files: if two slashes, a host, a drive or nothing. -/
def isFile (cs : List Char) : Bool :=
  match cs with
  | a :: b :: rest =>
    let host := rest.takeWhile (!isEnd ·)
    !(isSlash a && isSlash b) || host.isEmpty || isDrive (String.ofList host)
      || (Host.read? host).isSome
  | _ => true

/-- A text that is an address of any scheme. -/
def isAddress (s : String) : Bool :=
  match scheme? (tidy s) with
  | none => false
  | some (scheme, rest) =>
    match defaultPort? scheme, rest with
    | some p, _ => (afterScheme? p rest).isSome
    | none, '/' :: '/' :: more => if scheme = "file" then isFile rest else isOpaque more
    | none, _ => scheme ≠ "file" || isFile rest

/-! ## Extending -/

/-- The address with segments behind its path. -/
def extend (a : Address) (more : String) : Address :=
  let front := if a.path.getLast? = some "" then a.path.dropLast else a.path
  { a with path := readPath (String.intercalate "/" (front ++ [more])).toList }

def hostText (a : Address) : String := a.host ++ ":" ++ toString a.port

end Address

end VaultProjection.Web
