import VaultProjection.Base64
import VaultProjection.Text.Basic
/-!
PEM bundles: sections between a `BEGIN` and an `END` line, with free text around them. A bundle is
split into its certificates and its private key, each block in its own words.

Lines end at each carriage return and each line feed. A section with a label that is not known is
skipped. A `BEGIN` line inside a section starts the section anew, but keeps the body read so far.
-/

namespace VaultProjection.Pem

/-! ## Lines -/

/-- A line and what ends it: one character, or nothing at the end of the text. -/
structure Line where
  text : List Char
  ending : List Char
  deriving DecidableEq, Repr

def isLineEnd (c : Char) : Bool := c == '\n' || c == '\r'

def lines : List Char → List Line
  | [] => []
  | c :: rest =>
    if isLineEnd c then ⟨[], [c]⟩ :: lines rest
    else match rest, lines rest with
      | [], _ => [⟨[c], []⟩]
      | _ :: _, [] => [⟨[c], []⟩]
      | _ :: _, l :: ls => { l with text := c :: l.text } :: ls

/-! ## Sections -/

/-- What a section with a known label holds. -/
inductive SectionKind where
  | certificate
  | privateKey
  | other
  /-- The keys of encrypted greetings, which are read but make no block. -/
  | echConfig
  deriving DecidableEq, Repr

def SectionKind.ofLabel? (label : String) : Option SectionKind :=
  match label with
  | "CERTIFICATE" => some .certificate
  | "PRIVATE KEY" | "RSA PRIVATE KEY" | "EC PRIVATE KEY" => some .privateKey
  | "PUBLIC KEY" | "X509 CRL" | "CERTIFICATE REQUEST" => some .other
  | "ECHCONFIG" => some .echConfig
  | _ => none

/-- A complete section with a known label, in its own words. -/
structure Block where
  kind : SectionKind
  text : List Char
  deriving DecidableEq, Repr

inductive Fault where
  /-- A `BEGIN` line that does not end in five dashes. -/
  | sectionStart (line : List Char)
  /-- The text ends inside a section. -/
  | sectionEnd (label : List Char)
  /-- The body of a section is not base64. -/
  | body
  | noCertificate
  deriving DecidableEq, Repr

/-- Bytes as a list of numbers. -/
def byteList (cs : List Char) : String :=
  "[" ++ String.intercalate ", "
    ((Bytes.ofText (String.ofList cs)).map fun b => toString b.toNat) ++ "]"

def Fault.message : Fault → String
  | .sectionStart line => "IllegalSectionStart \x7b line: " ++ byteList line ++ " \x7d"
  | .sectionEnd label => "MissingSectionEnd \x7b end_marker: " ++ byteList label ++ " \x7d"
  | .body => "Base64Decode(<base64>)"
  | .noCertificate => "no certificate found in bundle"

/-! ## Reading -/

def beginMark : List Char := "-----BEGIN ".toList

/-- The text by which the words of a block start. -/
def blockMark : List Char := "-----BEGIN".toList

def endLine (label : List Char) : List Char := "-----END ".toList ++ label ++ "-----".toList

/-- The label of a `BEGIN` line: what stands between the mark and the five dashes at its end, which
spaces may separate and follow. -/
def label? (line : List Char) : Option (List Char) :=
  let tail := line.reverse.takeWhile fun c => c = '-' ∨ c = ' '
  let upToFirstDash := tail.reverse.dropWhile (· = ' ')
  if tail.count '-' = 5 then some ((line.take (line.length - upToFirstDash.length)).drop 11)
  else none

/-- Where a reader stands: the label of the open section, the body since the last block, and all
text since then. -/
structure Reader where
  label : Option (List Char)
  body : List Char
  consumed : List Char

def Reader.start : Reader := ⟨none, [], []⟩

/-- The words of a block: from the first mark in the consumed text, without blanks at the end. -/
def words (consumed : List Char) : List Char :=
  Text.trimEnd ((Text.from? blockMark consumed).getD consumed)

/-- One line: either the reader moves on, or a section ends and a block is complete. -/
def Reader.step (r : Reader) (line : Line) : Except Fault (Reader × Option Block) :=
  let r := { r with consumed := r.consumed ++ line.text ++ line.ending }
  if beginMark.isPrefixOf line.text then
    match label? line.text with
    | none => .error (.sectionStart line.text)
    | some label => .ok ({ r with label := some label }, none)
  else match r.label with
    | none => .ok (r, none)
    | some label =>
      if (endLine label).isPrefixOf line.text then
        match SectionKind.ofLabel? (String.ofList label) with
        | none => .ok ({ r with label := none, body := [] }, none)
        | some kind =>
          if !Base64.isLoose (Bytes.ofText (String.ofList r.body)) then .error .body
          else if kind = .echConfig then .ok ({ r with label := none, body := [] }, none)
          else .ok (.start, some ⟨kind, words r.consumed⟩)
      else .ok ({ r with body := r.body ++ line.text }, none)

/-- The blocks of the remaining lines; the text must not end inside a section. -/
def blocksFrom (r : Reader) : List Line → Except Fault (List Block)
  | [] =>
    match r.label with
    | some label => .error (.sectionEnd label)
    | none => .ok []
  | line :: rest => do
    let (r, block) ← r.step line
    let more ← blocksFrom r rest
    .ok (block.toList ++ more)

def blocks (text : List Char) : Except Fault (List Block) := blocksFrom .start (lines text)

/-! ## Bundles -/

/-- A certificate chain, and the private key if there is one. -/
structure Bundle where
  chain : List Char
  privateKey : Option (List Char)
  deriving DecidableEq, Repr

/-- Blocks with one line end between them and one after the last. -/
def joined (blocks : List (List Char)) : List Char := List.intercalate ['\n'] blocks ++ ['\n']

/-- The certificates in order, and the first private key. -/
def bundle? (bs : List Block) : Except Fault Bundle :=
  let certificates := (bs.filter (·.kind = .certificate)).map (·.text)
  if certificates.isEmpty then .error .noCertificate
  else .ok ⟨joined certificates,
    (bs.find? (·.kind = .privateKey)).map fun b => b.text ++ ['\n']⟩

def split (text : String) : Except Fault Bundle := blocks text.toList >>= bundle?

end VaultProjection.Pem
