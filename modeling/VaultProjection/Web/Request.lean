import VaultProjection.Json.Basic
import VaultProjection.Web.Query
/-!
Requests and responses of web services. A request is addressed by a path and a query; some
characters cannot stand in either, and a text that has one of them is no target at all.
-/

namespace VaultProjection.Web

inductive Verb where
  | get
  | post
  | put
  | patch
  deriving DecidableEq, Repr

def Verb.name : Verb → String
  | .get => "GET"
  | .post => "POST"
  | .put => "PUT"
  | .patch => "PATCH"

/-! ## Targets -/

structure Target where
  path : String
  /-- The parts of the query as they stand. -/
  query : List String
  deriving DecidableEq, Repr

namespace Target

/-- The characters that a path cannot carry. -/
def isPathBreak (c : Char) : Bool := c.toNat ≤ 0x20 || "<>\x60\x7f".toList.contains c

def isQueryBreak (c : Char) : Bool := c.toNat ≤ 0x20 || "\"<>\x7f".toList.contains c

/-- How many bytes a target can have. -/
def maxLength : Nat := 65534

/-- The target of a text with pairs behind it. Nothing counts behind a number sign. -/
def read? (text : String) (pairs : List (String × String)) : Option Target :=
  let text := text ++ String.join (pairs.map fun p => "&" ++ Query.pairText p)
  let cs := text.toList.takeWhile (· ≠ '#')
  let path := cs.takeWhile (· ≠ '?')
  let query := cs.drop (path.length + 1)
  if maxLength < text.utf8ByteSize ∨ path.any isPathBreak ∨ query.any isQueryBreak then none
  else some ⟨String.ofList path, (Query.parts query).map String.ofList⟩

/-- The path that a request asks for, by a path or by an address with a scheme and a host. -/
def pathOf? (text : String) : Option String :=
  let path (cs : List Char) := cs.takeWhile fun c => c ≠ '?' ∧ c ≠ '#'
  match text.toList with
  | '/' :: rest => some (String.ofList ('/' :: path rest))
  | cs =>
    let scheme := cs.takeWhile fun c => c.isAlphanum || "+-.".toList.contains c
    match cs.drop scheme.length with
    | ':' :: '/' :: '/' :: rest =>
      let host := rest.takeWhile fun c => !"/?#".toList.contains c
      if scheme.isEmpty ∨ host.isEmpty then none
      else match path (rest.drop host.length) with
        | [] => some "/"
        | p => some (String.ofList p)
    | _ => none

/-- The names and values in the query. -/
def pairs (t : Target) : List (String × String) := t.query.map fun p => Query.pair p.toList

end Target

/-! ## Requests and responses -/

structure Request where
  verb : Verb
  target : Target
  contentType : Option String
  accept : Option String
  body : Option Json
  deriving BEq, Repr

structure Response where
  status : Nat
  body : String
  deriving DecidableEq, Repr

def jsonType : String := "application/json"

/-- A change of some members of an object. -/
def mergePatchType : String := "application/merge-patch+json"

/-! ## Statuses -/

/-- The words for statuses that stand for failures. -/
def failureWords : List (Nat × String) :=
  [(400, "Bad Request"), (401, "Unauthorized"), (402, "Payment Required"), (403, "Forbidden"),
    (404, "Not Found"), (405, "Method Not Allowed"), (406, "Not Acceptable"),
    (407, "Proxy Authentication Required"), (408, "Request Timeout"), (409, "Conflict"),
    (410, "Gone"), (411, "Length Required"), (412, "Precondition Failed"),
    (413, "Payload Too Large"), (414, "URI Too Long"), (415, "Unsupported Media Type"),
    (416, "Range Not Satisfiable"), (417, "Expectation Failed"), (418, "I'm a teapot"),
    (421, "Misdirected Request"), (422, "Unprocessable Entity"), (423, "Locked"),
    (424, "Failed Dependency"), (425, "Too Early"), (426, "Upgrade Required"),
    (428, "Precondition Required"), (429, "Too Many Requests"),
    (431, "Request Header Fields Too Large"), (451, "Unavailable For Legal Reasons"),
    (500, "Internal Server Error"), (501, "Not Implemented"), (502, "Bad Gateway"),
    (503, "Service Unavailable"), (504, "Gateway Timeout"), (505, "HTTP Version Not Supported"),
    (506, "Variant Also Negotiates"), (507, "Insufficient Storage"), (508, "Loop Detected"),
    (510, "Not Extended"), (511, "Network Authentication Required")]

def statusText (status : Nat) : String :=
  toString status ++ " " ++ (failureWords.lookup status).getD "<unknown status code>"

/-- The request or the service is at fault. -/
def Response.isFailure (r : Response) : Bool := 400 ≤ r.status && r.status < 600

end VaultProjection.Web
