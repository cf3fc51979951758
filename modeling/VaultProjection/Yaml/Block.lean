import VaultProjection.Text.Basic
/-!
Documents in YAML's block style, with the members of every map in the order in which they are given.
A text of several lines is written as a literal block without a final line end.
-/

namespace VaultProjection.Yaml

/-- A document to be written. -/
inductive Block where
  | null
  | flag (b : Bool)
  | text (s : String)
  | seq (items : List Block)
  | map (members : List (String × Block))

namespace Block

/-- A plain text would be read as something else: a colon ends a key before a blank, `#` starts a
comment after one. -/
def needsQuotes (s : String) : Bool := Text.mentions s ": " || Text.mentions s " #"

/-- A text of one line. -/
def scalar (s : String) : String :=
  if needsQuotes s then "'" ++ s.replace "'" "''" ++ "'" else s

def indent (line : String) : String := if line.isEmpty then line else "  " ++ line

/-- The lines of an item behind its dash. -/
def dashed : List String → List String
  | [] => ["-"]
  | first :: rest => ("- " ++ first) :: rest.map indent

mutual
/-- The lines of a document. -/
def lines : Block → List String
  | .null => ["null"]
  | .flag b => [if b then "true" else "false"]
  | .text s => [scalar s]
  | .seq items => itemLines items
  | .map ms => memberLines ms

def itemLines : List Block → List String
  | [] => []
  | b :: rest => dashed (lines b) ++ itemLines rest

def memberLines : List (String × Block) → List String
  | [] => []
  | (k, b) :: rest =>
    (match b with
      | .null => [k ++ ": null"]
      | .flag b => [k ++ ": " ++ if b then "true" else "false"]
      | .text s =>
        if s.contains '\n' then (k ++ ": |-") :: (s.splitOn "\n").map indent
        else [k ++ ": " ++ scalar s]
      | .seq [] => [k ++ ": []"]
      | .seq (i :: is) => (k ++ ":") :: itemLines (i :: is)
      | .map [] => [k ++ ": \x7b\x7d"]
      | .map (m :: ms) => (k ++ ":") :: (memberLines (m :: ms)).map indent) ++ memberLines rest
end

/-- The document as text, ended by a line end. -/
def render (b : Block) : String := String.join ((lines b).map (· ++ "\n"))

end Block

end VaultProjection.Yaml
