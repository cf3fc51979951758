import VaultProjection.Config.Basic
import VaultProjection.Decimal.Numeral
import VaultProjection.Pattern.Match
import VaultProjection.Pattern.Read
import VaultProjection.Text.Category
import VaultProjection.Text.Lowercase
import VaultProjection.Telemetry.Log
/-!
Which log records are written. A filter is a list of directives with commas between them:

| Directive | Lets through |
|---|---|
| `level` | records up to this level |
| `target=level` | records up to this level whose target starts with `target` |
| `target` | all records whose target starts with `target` |
| `target[span]=level` | records up to this level within a span of this name |
| `target[span{field}]=level` | the same, if the span has such a field |
| `target[span{field=value}]=level` | the same, if the pattern `value` matches the field |

Of the directives without a span the most specific one decides: the one with the longest target, and
among equals the one with the most fields. The directives with a span or fields add to that what is
logged within the spans that they match.
-/

namespace VaultProjection

/-- A text that stands for a pattern. -/
structure PatternText where
  text : String
  readable : (Pattern.Expr.read? text).isSome
  deriving DecidableEq, Repr

namespace PatternText

def ofText? (text : String) : Option PatternText :=
  if h : (Pattern.Expr.read? text).isSome then some ⟨text, h⟩ else none

def expr (p : PatternText) : Pattern.Expr := (Pattern.Expr.read? p.text).get p.readable

end PatternText

/-- What is asked of the value of a field. -/
inductive ValueTest where
  /-- To be this truth value or number; no text is. -/
  | word (text : String)
  | pattern (p : PatternText)
  deriving DecidableEq, Repr

namespace ValueTest

/-- A truth value or a number, which may be infinite or none. -/
def isWord (text : String) : Bool :=
  let unsigned := match text.toList with
    | '+' :: rest => rest
    | '-' :: rest => rest
    | cs => cs
  ["true", "false"].contains text
    || ["inf", "infinity", "nan"].any (Text.sameIgnoringCase (String.ofList unsigned))
    || Numeral.isDecimal unsigned

def ofText? (text : String) : Option ValueTest :=
  if isWord text then some (.word text) else (PatternText.ofText? text).map .pattern

def accepts (t : ValueTest) (value : Json) : Bool :=
  match t, value with
  | .pattern p, .str s => p.expr.isMatch s
  | _, _ => false

end ValueTest

/-- A field that must be there, with a test of its value if there is one. -/
structure FieldTest where
  name : String
  value : Option ValueTest
  deriving DecidableEq, Repr

structure Directive where
  target : Option String
  span : Option String
  fields : List FieldTest
  /-- The verbosity up to which records are let through; zero lets none through. -/
  verbosity : Nat
  deriving DecidableEq, Repr

namespace Directive

/-! ## Reading -/

/-- The verbosity that a word or a number stands for. -/
def verbosity? (s : String) : Option Nat :=
  match Config.number? 64 s with
  | some n => if n ≤ 5 then some n else none
  | none =>
    if s = "" then some 1
    else if Text.sameIgnoringCase s "off" then some 0
    else (Level.all.find? (Text.sameIgnoringCase s ·.name)).map Level.verbosity

/-- A character of a directive that decides how it is read, and the one that is taken over. They
differ only behind leading blanks, which are skipped without being cut off. -/
abbrev Glyph := Char × Char

/-- What stands before the first of some stops, and the rest from the stop on. -/
def piece (stops : List Char) (gs : List Glyph) : List Char × List Glyph :=
  ((gs.takeWhile (!stops.contains ·.1)).map (·.2), gs.dropWhile (!stops.contains ·.1))

/-- What may begin a directive. -/
def begins (c : Char) : Bool := Text.isAlphanumeric c || "-:_".toList.contains c

/-- The level at the end of a directive, where none stands for all levels. -/
def withLevel (d : Directive) (text : List Char) : Option Directive :=
  if text.isEmpty then some d
  else (verbosity? (String.ofList text)).map fun v => { d with verbosity := v }

/-- What follows a span: nothing or a level. -/
def afterSpan (d : Directive) (gs : List Glyph) (trailing : List Char) : Option Directive :=
  match gs with
  | [] => some d
  | ('=', _) :: level => d.withLevel (level.map (·.2) ++ trailing)
  | _ => none

/-- A name, and behind a sign what is asked of the value. -/
def fieldTest? (cs : List Char) : Option FieldTest :=
  match (Text.pieces '=' cs).map String.ofList with
  | name :: value :: _ => (ValueTest.ofText? value).map fun t => ⟨name, some t⟩
  | [name] => some ⟨name, none⟩
  | [] => none

/-- A span from behind its opening bracket on. -/
def readSpan (d : Directive) (gs : List Glyph) (trailing : List Char) : Option Directive :=
  let (name, gs) := piece [']', '\x7b'] gs
  match gs with
  | (']', _) :: gs => afterSpan { d with span := some (String.ofList name) } gs trailing
  | ('\x7b', _) :: gs =>
    let (field, gs) := piece ['\x7d'] gs
    match gs with
    | _ :: (']', _) :: gs =>
      if field.isEmpty then none
      else (fieldTest? field).bind fun t => afterSpan { d with
        span := if name.isEmpty then none else some (String.ofList name)
        fields := [t] } gs trailing
    | _ => none
  | _ => none

def read? (text : String) : Option Directive :=
  let raw := text.toList
  let cs := Text.trim raw
  let gs := cs.zip raw
  let trailing := raw.drop cs.length
  let blank : Directive := ⟨none, none, [], 5⟩
  match gs with
  | [] => none
  | ('[', _) :: gs => readSpan blank gs trailing
  | (c, _) :: _ =>
    if !begins c then none
    else
      let (word, rest) := piece ['=', '['] gs
      let d := { blank with target := some (String.ofList word) }
      match rest with
      | [] =>
        let word := String.ofList (word ++ trailing)
        match verbosity? word with
        | some verbosity => some { blank with verbosity }
        | none => some { blank with target := some word }
      | ('=', _) :: level => d.withLevel (level.map (·.2) ++ trailing)
      | _ :: gs => readSpan d gs trailing

/-! ## Kinds and order -/

/-- Looks at the spans around a record. -/
def isDynamic (d : Directive) : Bool := d.span.isSome || !d.fields.isEmpty

def hasValues (d : Directive) : Bool := d.fields.any (·.value.isSome)

/-- Can be judged without looking at spans. -/
def isStatic (d : Directive) : Bool := d.span.isNone && !d.hasValues

def fieldNames (d : Directive) : List String := d.fields.map (·.name)

/-- How specific a directive is. -/
def compareTo (a b : Directive) : Ordering :=
  (compare (a.target.map (·.utf8ByteSize)) (b.target.map (·.utf8ByteSize))).then
    ((compare a.fields.length b.fields.length).then
      ((compare a.target b.target).then (compare a.fieldNames b.fieldNames)))

def coversTarget (d : Directive) (target : String) : Bool :=
  d.target.all fun t => t.toList.isPrefixOf target.toList

/-- Whether a span is one of those that the directive is about. -/
def coversSpan (d : Directive) (s : Span) : Bool :=
  d.coversTarget s.part.target && d.span.all (· = s.name)
    && d.fieldNames.all (s.fields.map (·.1)).contains

/-- Whether the fields of a span have the values that are asked for. -/
def agrees (d : Directive) (s : Span) : Bool :=
  d.fields.all fun t => t.value.all fun v => (s.fields.lookup t.name).any v.accepts

end Directive

/-! ## Filters -/

structure LogFilter where
  statics : List Directive
  dynamics : List Directive
  /-- The highest verbosity that has been asked for, be it by a directive that does not count. -/
  highest : Nat
  deriving DecidableEq, Repr

namespace LogFilter

/-- Of directives alike only the last one counts. -/
def keepLast (alike : Directive → Directive → Bool) (ds : List Directive) : List Directive :=
  ds.foldl (fun kept d => kept.filter (!alike d ·) ++ [d]) []

/-- The filter of some directives; without any it lets records up to `fallback` through. -/
def ofDirectives (fallback : Nat) (ds : List Directive) : LogFilter :=
  let ds := if ds.isEmpty then [⟨none, none, [], fallback⟩] else ds
  let dynamics := ds.filter Directive.isDynamic
  let statics := ds.filter (!·.isDynamic) ++ dynamics.filter Directive.isStatic
  { statics := keepLast (fun a b => a.target == b.target && a.fieldNames == b.fieldNames) statics
    dynamics := keepLast
      (fun a b => a.target == b.target && a.span == b.span && a.fields == b.fields) dynamics
    highest := (ds.map (·.verbosity)).foldl Nat.max 0 }

def parts (text : String) : List String :=
  ((Text.pieces ',' text.toList).map String.ofList).filter (· ≠ "")

/-- The filter that a text says, if all of it can be read. -/
def read? (text : String) : Option LogFilter :=
  ((parts text).mapM Directive.read?).map (ofDirectives 0)

/-- The filter that a text says, without what cannot be read. -/
def ofText (text : String) : LogFilter :=
  ofDirectives 1 ((parts text).filterMap Directive.read?)

/-- Warnings of anybody, and of the controller what its log level says. -/
def ofLevel (level : String) : LogFilter :=
  ofText ("warn," ++ Part.root ++ "=" ++ Text.lowercase level)

/-- The filter of a variable, and of the log level if there is no variable that can be read. -/
def ofSettings (given : Option String) (level : String) : LogFilter :=
  (given.bind read?).getD (ofLevel level)

/-! ## Judging -/

/-- The directive that decides about a target, and about a record's fields if it is a record. -/
def decisive? (f : LogFilter) (target : String) (fields : Option (List String)) :
    Option Directive :=
  (f.statics.filter fun d =>
    d.coversTarget target && fields.all fun names => d.fieldNames.all names.contains).foldl
    (fun best d => match best with
      | none => some d
      | some b => if b.compareTo d = .gt then some b else some d) none

/-- Whether a level is let through without looking at spans. -/
def admits (f : LogFilter) (target : String) (fields : Option (List String)) (level : Level) :
    Bool :=
  (f.decisive? target fields).any (level.verbosity ≤ ·.verbosity)

/-- The verbosity above which nothing is looked at. -/
def ceiling (f : LogFilter) : Nat :=
  if f.dynamics.any Directive.hasValues then 5 else f.highest

/-- The verbosity that a span allows within it, if a directive is about it. -/
def within? (f : LogFilter) (s : Span) : Option Nat :=
  let ds := f.dynamics.filter (·.coversSpan s)
  if ds.isEmpty ∨ f.ceiling < s.level.verbosity then none
  else some (((ds.filter (·.agrees s)).map (·.verbosity)).foldl Nat.max 0)

/-- The open spans that are kept, the innermost first, and what they allow within them. -/
def scope (f : LogFilter) : List Span → List Span × List Nat
  | [] => ([], [])
  | s :: outer =>
    let (kept, allowed) := f.scope outer
    match f.within? s with
    | some v => (s :: kept, v :: allowed)
    | none =>
      if f.admits s.part.target none s.level || allowed.any (s.level.verbosity ≤ ·) then
        (s :: kept, allowed)
      else (kept, allowed)

/-- A record as it is written: with the spans that are kept, if it is let through. -/
def apply (f : LogFilter) (r : LogRecord) : Option LogRecord :=
  let (spans, allowed) := f.scope r.spans
  let names := "message" :: r.fields.map (·.1)
  if f.admits r.part.target (some names) r.level || allowed.any (r.level.verbosity ≤ ·) then
    some { r with spans }
  else none

/-- The levels that are let through for a target, outside of all spans. -/
def levels (f : LogFilter) (target : String) : List Level := Level.all.filter (f.admits target none)

end LogFilter

namespace LogRecord

/-- The line of a record, without its time. -/
def toJson (r : LogRecord) : Json :=
  .ofPresent [("level", some (.str r.level.name)), ("target", some (.str r.part.target)),
    ("fields", some (.ofMembers (("message", .str r.message) :: r.fields))),
    ("span", r.spans.head?.map fun s => .ofMembers (("name", .str s.name) :: s.fields))]

end LogRecord

end VaultProjection
