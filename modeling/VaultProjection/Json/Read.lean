import VaultProjection.Json.Number
import VaultProjection.Json.Raw
/-!
Reading JSON text. Characters are gathered into tokens by a machine that sees one character at a
time, and tokens into a document by a machine with a stack of open arrays and objects. Both are
folds, so reading ends on every text.
-/

namespace VaultProjection.Json

/-! ## Texts -/

/-- The inside of a text up to some place. -/
structure Draft where
  /-- The characters in reverse, as long as they can be told. -/
  chars : Option (List Char)
  /-- The high half of a pair whose low half must come next. -/
  high : Option Nat
  isPlain : Bool
  deriving BEq, Repr

namespace Draft

def empty : Draft := ⟨some [], none, true⟩

/-- A character; behind a high half nothing can be told any more. -/
def push (d : Draft) (c : Char) : Draft :=
  match d.high with
  | none => { d with chars := d.chars.map (c :: ·) }
  | some _ => { d with chars := none, high := none }

/-- The code of a character or of one half of a pair. -/
def pushUnit (d : Draft) (v : Nat) : Draft :=
  let isLow := 0xDC00 ≤ v ∧ v ≤ 0xDFFF
  match d.high with
  | some h =>
    let c := Char.ofNat (0x10000 + (h - 0xD800) * 1024 + (v - 0xDC00))
    { d with chars := if isLow then d.chars.map (c :: ·) else none, high := none }
  | none =>
    if 0xD800 ≤ v ∧ v ≤ 0xDBFF then { d with high := some v }
    else if isLow then { d with chars := none }
    else d.push (Char.ofNat v)

def escaped (d : Draft) : Draft := { d with isPlain := false }

def finish (d : Draft) : RawText :=
  ⟨if d.high.isSome then none else d.chars.map fun cs => String.ofList cs.reverse, d.isPlain⟩

end Draft

/-! ## Tokens -/

inductive Token where
  | openArray
  | closeArray
  | openObject
  | closeObject
  | comma
  | colon
  | text (t : RawText)
  | scalar (r : Raw)

/-- Where the token machine stands. -/
inductive Scan where
  | between
  /-- Inside a text. -/
  | text (d : Draft)
  /-- Behind a backslash. -/
  | escape (d : Draft)
  /-- Inside `\u`, with the digits' value so far and how many are missing. -/
  | hex (d : Draft) (value missing : Nat)
  /-- Inside a number, whose characters are kept in reverse. -/
  | number (acc : List Char)
  /-- Inside a word, with what is missing of it. -/
  | word (missing : List Char) (value : Raw)

def isSpace (c : Char) : Bool := c = ' ' || c = '\n' || c = '\t' || c = '\r'

def isNumberChar (c : Char) : Bool :=
  isDigit c || c = '-' || c = '+' || c = '.' || c = 'e' || c = 'E'

def hexValue? (c : Char) : Option Nat :=
  if isDigit c then some (c.toNat - 48)
  else if 'a' ≤ c ∧ c ≤ 'f' then some (c.toNat - 87)
  else if 'A' ≤ c ∧ c ≤ 'F' then some (c.toNat - 55)
  else none

/-- A character between tokens. -/
def Scan.start (c : Char) : Option (Scan × List Token) :=
  if isSpace c then some (.between, [])
  else if c = '[' then some (.between, [.openArray])
  else if c = ']' then some (.between, [.closeArray])
  else if c = '\x7b' then some (.between, [.openObject])
  else if c = '\x7d' then some (.between, [.closeObject])
  else if c = ',' then some (.between, [.comma])
  else if c = ':' then some (.between, [.colon])
  else if c = '"' then some (.text .empty, [])
  else if c = '-' || isDigit c then some (.number [c], [])
  else if c = 't' then some (.word ['r', 'u', 'e'] (.bool true), [])
  else if c = 'f' then some (.word ['a', 'l', 's', 'e'] (.bool false), [])
  else if c = 'n' then some (.word ['u', 'l', 'l'] .null, [])
  else none

/-- The character of an escape with a single letter. -/
def simpleEscape? (c : Char) : Option Char :=
  if c = '"' then some '"' else if c = '\\' then some '\\' else if c = '/' then some '/'
  else if c = 'b' then some '\x08' else if c = 'f' then some '\x0c' else if c = 'n' then some '\n'
  else if c = 'r' then some '\r' else if c = 't' then some '\t' else none

/-- The token of a number's characters in reverse, if they are a number. -/
def numberToken? (acc : List Char) : Option Token :=
  (NumberText.ofChars acc.reverse).map fun t => .scalar (.number t.value?)

def Scan.step (s : Scan) (c : Char) : Option (Scan × List Token) :=
  match s with
  | .between => Scan.start c
  | .text d =>
    if c = '"' then some (.between, [.text d.finish])
    else if c = '\\' then some (.escape d.escaped, [])
    else if c.toNat < 32 then none
    else some (.text (d.push c), [])
  | .escape d =>
    if c = 'u' then some (.hex d 0 4, [])
    else (simpleEscape? c).map fun e => (.text (d.push e), [])
  | .hex d v missing =>
    match hexValue? c with
    | none => none
    | some x =>
      if missing ≤ 1 then some (.text (d.pushUnit (v * 16 + x)), [])
      else some (.hex d (v * 16 + x) (missing - 1), [])
  | .number acc =>
    if isNumberChar c then some (.number (c :: acc), [])
    else do
      let t ← numberToken? acc
      let (s, ts) ← Scan.start c
      some (s, t :: ts)
  | .word missing value =>
    match missing with
    | [] => none
    | d :: rest =>
      if c ≠ d then none
      else if rest.isEmpty then some (.between, [.scalar value])
      else some (.word rest value, [])

/-- The last token, which the end of the text completes. -/
def Scan.finish : Scan → Option (List Token)
  | .between => some []
  | .number acc => (numberToken? acc).map ([·])
  | _ => none

/-- The tokens of a text, behind those in `acc`, which are in reverse. -/
def tokensFrom (s : Scan) (acc : List Token) : List Char → Option (List Token)
  | [] => s.finish.map fun ts => acc.reverse ++ ts
  | c :: rest =>
    match s.step c with
    | none => none
    | some (s, ts) => tokensFrom s (ts.reverse ++ acc) rest

def tokens (cs : List Char) : Option (List Token) := tokensFrom .between [] cs

/-! ## Documents -/

/-- An open array or object with what it holds in reverse; in an object a key is being filled. -/
inductive Frame where
  | items (done : List Raw)
  | member (done : List (RawText × Raw)) (key : RawText)

/-- What may come next. -/
inductive Expect where
  | value
  | valueOrEnd
  | key (done : List (RawText × Raw))
  | keyOrEnd
  | colon (done : List (RawText × Raw)) (key : RawText)
  /-- A comma or the end of the innermost open value. -/
  | more
  | nothing (result : Raw)

structure Build where
  stack : List Frame
  expect : Expect

def Build.start : Build := ⟨[], .value⟩

/-- Puts a complete value where one was expected. -/
def Build.accept (b : Build) (r : Raw) : Build :=
  match b.stack with
  | [] => { b with expect := .nothing r }
  | .items done :: rest => ⟨.items (r :: done) :: rest, .more⟩
  | .member done k :: rest => ⟨.member ((k, r) :: done) k :: rest, .more⟩

/-- Ends the innermost container. -/
def Build.close (b : Build) (r : Raw) : Build := Build.accept { b with stack := b.stack.tail } r

def Build.value (b : Build) : Token → Option Build
  | .text t => some (b.accept (.text t))
  | .scalar r => some (b.accept r)
  | .openArray => some ⟨.items [] :: b.stack, .valueOrEnd⟩
  | .openObject => some ⟨.member [] ⟨none, true⟩ :: b.stack, .keyOrEnd⟩
  | _ => none

def Build.step (b : Build) (t : Token) : Option Build :=
  match b.expect, t with
  | .value, t => b.value t
  | .valueOrEnd, .closeArray => some (b.close (.items []))
  | .valueOrEnd, t => b.value t
  | .keyOrEnd, .closeObject => some (b.close (.members []))
  | .keyOrEnd, .text k => some { b with expect := .colon [] k }
  | .key done, .text k => some { b with expect := .colon done k }
  | .colon done k, .colon => some ⟨.member done k :: b.stack.tail, .value⟩
  | .more, .comma =>
    match b.stack with
    | .items _ :: _ => some { b with expect := .value }
    | .member done _ :: _ => some { b with expect := .key done }
    | [] => none
  | .more, .closeArray =>
    match b.stack with
    | .items done :: _ => some (b.close (.items done.reverse))
    | _ => none
  | .more, .closeObject =>
    match b.stack with
    | .member done _ :: _ => some (b.close (.members done.reverse))
    | _ => none
  | _, _ => none

def Build.run (b : Build) : List Token → Option Build
  | [] => some b
  | t :: rest => (b.step t).bind (·.run rest)

/-- The document that a text is, if it is one. -/
def Raw.read? (s : String) : Option Raw := do
  let ts ← tokens s.toList
  let b ← Build.start.run ts
  match b.expect with
  | .nothing r => some r
  | _ => none

/-- Containers of a value may be nested this deep. -/
def maxDepth : Nat := 127

/-- The value that a JSON text holds, if it is one. -/
def read? (s : String) : Option Json := do (← Raw.read? s).value? maxDepth

end VaultProjection.Json
