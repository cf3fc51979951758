import VaultProjection.Json.Shape
import VaultProjection.Json.Write
import VaultProjection.Vault.Api
import VaultProjection.Web.Request
/-!
What vaults answer. A secret is read as a record of which all parts must fit, also those that are
not needed; a key is any JSON value with a member for its material. A failure says only in its text
that an object is missing, and any other failure may pass. The text includes what is found wrong
with a body that cannot be read, which names the value that stands there in place of another.
-/

namespace VaultProjection.Vault

open Json (Raw Shape)

/-! ## Failures -/

/-- What the parser of a foreign text said. -/
def someCause : String := "<cause>"

/-- Why a read failed. -/
structure Failure where
  text : String
  /-- What `someCause` stands for in the text, as far as it can tell of a missing object. -/
  cause : String
  deriving DecidableEq, Repr

/-- A failure of which the text tells all. -/
def Failure.plain (text : String) : Failure := ⟨text, ""⟩

/-- The message in the account that the API gives of a failure; nothing if the body is no such
account. Its texts must stand there as they read. -/
def accountMessage? (body : String) : Option (Option String) := do
  let fs ← (← Raw.read? body).fields? ["error"]
  Raw.required? fs "error" fun r => do
    let fs ← r.fields? ["code", "message"] 2
    let _ ← Raw.maybe? fs "code" Raw.plainStr?
    Raw.maybe? fs "message" Raw.plainStr?

/-- The text of a failure. -/
def failureText (r : Web.Response) : String :=
  let status := toString r.status
  if r.body.isEmpty then status
  else match accountMessage? r.body with
    | some message => message.getD status
    | none => status ++ ": " ++ r.body

/-! ## Objects -/

/-- The part of a secret that is needed. -/
structure SecretBody where
  value : Option String
  contentType : Option String
  deriving DecidableEq, Repr

/-- A time in seconds since the start of 1970, within the years from -9999 to 9999. -/
def secondsShape : Shape := .int 64 (some (-377705116800, 253402300799))

def attributesShape : Shape :=
  .record [("created", .optional secondsShape), ("enabled", .optional .bool),
    ("exp", .optional secondsShape), ("nbf", .optional secondsShape),
    ("recoverableDays", .optional (.int 32 none)), ("recoveryLevel", .optional .text),
    ("updated", .optional secondsShape)] 6

def secretFields : List (String × Shape) :=
  [("attributes", .optional attributesShape), ("contentType", .optional .text),
    ("id", .optional .text), ("kid", .optional .text), ("managed", .optional .bool),
    ("previousVersion", .optional .text), ("tags", .optional (.table .text)),
    ("value", .optional .text)]

def secretShape : Shape := .record secretFields 8

def SecretBody.read? (r : Raw) : Option SecretBody := do
  guard (secretShape.fits r)
  let fs ← r.fields? (secretFields.map (·.1)) 8
  some ⟨← Raw.maybe? fs "value" Raw.str?, ← Raw.maybe? fs "contentType" Raw.str?⟩

/-- The shape of a body. -/
def Api.bodyShape : Api → Shape
  | .secrets => secretShape
  | .keys => .value Json.maxDepth

/-- What is found wrong with a body that cannot be read. -/
def Api.complaint (api : Api) (body : String) : String :=
  let bytes := Bytes.ofText body
  ((api.bodyShape.fault? bytes).map (·.text bytes)).getD ""

/-- The object in the body of a good answer. -/
def Api.object? (api : Api) (name body : String) : Except Failure RawObject :=
  let unreadable : Failure :=
    ⟨"Failed to deserialize Azure " ++ api.word ++ " response: " ++ someCause, api.complaint body⟩
  match api with
  | .secrets =>
    match (Raw.read? body).bind SecretBody.read? with
    | some ⟨some value, contentType⟩ => .ok ⟨value, contentType⟩
    | some _ => .error (.plain ("secret '" ++ name ++ "' has no value"))
    | none => .error unreadable
  | .keys =>
    match Json.read? body with
    | some j =>
      if (j.get "key").isNull then .error (.plain ("key '" ++ name ++ "' has no key material"))
      else .ok ⟨(j.get "key").compact, none⟩
    | none => .error unreadable

/-- What becomes of a request. -/
inductive Reply where
  | answered (r : Web.Response)
  /-- No answer came, for a reason that the client gives. -/
  | lost (reason : String)
  deriving DecidableEq, Repr

instance : Coe Web.Response Reply := ⟨.answered⟩

/-- The object in a reply, or the failure. -/
def Api.result (api : Api) (name : String) : Reply → Except Failure RawObject
  | .answered r =>
    if r.status = 200 then api.object? name r.body else .error (.plain (failureText r))
  | .lost reason => .error (.plain reason)

/-- The texts of which a missing object is known by one. -/
def missingMarks : List String :=
  ["SecretNotFound", "KeyNotFound", "CertificateNotFound", "404", "not found"]

/-- Whether a failure is known to be a missing object. -/
def Failure.isMissing (f : Failure) : Bool :=
  missingMarks.any fun mark => Text.mentions f.text mark || Text.mentions f.cause mark

/-- The error of a read that failed. -/
def ReadError.ofFailure (target : Target) (f : Failure) : ReadError :=
  if f.isMissing then .notFound target else .transient target f.text

end VaultProjection.Vault
