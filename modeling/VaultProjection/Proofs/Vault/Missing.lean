import VaultProjection.Proofs.Text.Search
import VaultProjection.Vault.Service

/-!
# What is taken for a missing object

Vaults say only in the text of a failure that an object is missing, so marks in that text decide
whether it is taken for that. But the text holds more than what the vault says of the object: the
object's name, whatever else the vault or the client has to say, a value that stands in the wrong
place, and the numbers of its line and column. A mark in any of these is taken for a missing object
too. The words around them are the controller's own and neither hold a mark nor help to make one.

Results:
1. `Clear.marked_iff`: around words that no mark overlaps a mark stands on either side.
2. `isMissing_result`: which replies are taken for a missing object.
3. `notFound_iff`: when a read ends with an object that was not found.
-/

namespace VaultProjection.Vault

/-! ## Marks -/

/-- One of the marks of a missing object stands in the text. -/
def Marked (text : String) : Prop := ∃ mark ∈ missingMarks, mark.toList <:+: text.toList

instance (text : String) : Decidable (Marked text) :=
  inferInstanceAs (Decidable (∃ mark ∈ missingMarks, mark.toList <:+: text.toList))

/-- No mark overlaps the words, wherever they stand. -/
def Clear (words : String) : Prop :=
  ∀ mark ∈ missingMarks, Text.Divides words.toList mark.toList

instance (words : String) : Decidable (Clear words) :=
  inferInstanceAs (Decidable (∀ mark ∈ missingMarks, Text.Divides words.toList mark.toList))

section

variable {a b words : String}

theorem Clear.marked_iff (h : Clear words) : Marked (a ++ words ++ b) ↔ Marked a ∨ Marked b := by
  simp only [Marked, String.toList_append, ← exists_or, ← and_or_left]
  exact exists_congr fun mark => and_congr_right fun hmark => (h mark hmark).infix_iff

theorem not_marked_empty : ¬ Marked "" := by decide

theorem Clear.marked_behind (h : Clear words) : Marked (words ++ b) ↔ Marked b := by
  have hiff := h.marked_iff (a := "") (b := b)
  rwa [String.empty_append, or_iff_right not_marked_empty] at hiff

theorem Clear.marked_before (h : Clear words) : Marked (a ++ words) ↔ Marked a := by
  have hiff := h.marked_iff (a := a) (b := "")
  rwa [String.append_empty, or_iff_left not_marked_empty] at hiff

end

/-- Of the numbers with at most three digits only one shows a mark. -/
theorem marked_number_iff {n : Nat} (h : n < 1000) : Marked (toString n) ↔ n = 404 := by
  constructor
  · rintro ⟨mark, hmark, hinfix⟩
    rw [Nat.toString_eq_repr, Nat.toList_repr] at hinfix
    have hdigits : (Nat.toDigits 10 n).length ≤ 3 :=
      (Nat.length_toDigits_le_iff (by decide) (by decide)).2 h
    have hshort : mark.toList.length ≤ 3 := Nat.le_trans hinfix.length_le hdigits
    -- The other marks are longer.
    have hnumber : ∀ mark ∈ missingMarks, mark.toList.length ≤ 3 → mark = "404" := by decide
    rw [hnumber mark hmark hshort] at hinfix
    have hsame : "404".toList = Nat.toDigits 10 n :=
      hinfix.eq_of_length (Nat.le_antisymm hinfix.length_le hdigits)
    calc n = Nat.ofDigitChars 10 (Nat.toDigits 10 n) 0 := Nat.ofDigitChars_ten_toDigits.symm
      _ = 404 := by rw [← hsame]; rfl
  · rintro rfl
    decide

/-! ## Failures -/

theorem Failure.isMissing_iff {f : Failure} :
    f.isMissing = true ↔ Marked f.text ∨ Marked f.cause := by
  simp only [isMissing, List.any_eq_true, Bool.or_eq_true, Text.mentions_iff, Marked, and_or_left,
    exists_or]

theorem Failure.isMissing_plain {text : String} :
    (plain text).isMissing = true ↔ Marked text := by
  rw [isMissing_iff]
  exact or_iff_left not_marked_empty

/-- The fault names a value with a mark, or the number of its line or column shows one. -/
def FaultMarked (f : Json.Fault) (whole : Bytes) : Prop :=
  Marked f.found ∨ Marked (toString (f.place whole).1) ∨ Marked (toString (f.place whole).2)

theorem marked_fault {f : Json.Fault} {whole : Bytes} :
    Marked (f.text whole) ↔ FaultMarked f whole := by
  have hline : Clear " at line " := by decide
  have hcolumn : Clear " column " := by decide
  rw [Json.Fault.text, hcolumn.marked_iff, hline.marked_iff, or_assoc]
  rfl

/-- What an answer says that is no good one. -/
theorem marked_failureText {r : Web.Response} : Marked (failureText r) ↔
    (match accountMessage? r.body with
      | some (some message) => Marked message
      | some none => Marked (toString r.status)
      | none => Marked (toString r.status) ∨ Marked r.body) := by
  have hcolon : Clear ": " := by decide
  unfold failureText
  by_cases hempty : r.body.isEmpty = true
  · have hbody : r.body = "" := String.isEmpty_iff.1 hempty
    have hnone : accountMessage? "" = none := by decide +kernel
    simp only [hbody, hnone, or_iff_left not_marked_empty]
    rfl
  · simp only [hempty]
    cases accountMessage? r.body with
    | none => exact hcolon.marked_iff
    | some message => cases message <;> rfl

/-! ## Answers -/

namespace Api

/-- The body is as it should be, but there is no value in it, or no material of a key. -/
def LacksValue : Api → String → Prop
  | .secrets, body => ∃ contentType,
    (Json.Raw.read? body).bind SecretBody.read? = some ⟨none, contentType⟩
  | .keys, body => ∃ j, Json.read? body = some j ∧ (j.get "key").isNull = true

/-- The body is no account of an object. -/
def Unreadable : Api → String → Prop
  | .secrets, body => (Json.Raw.read? body).bind SecretBody.read? = none
  | .keys, body => Json.read? body = none

end Api

/-- The result is a failure that is taken for a missing object. -/
def TakenForMissing (result : Except Failure RawObject) : Prop :=
  ∃ f, result = .error f ∧ f.isMissing = true

theorem not_taken_ok (raw : RawObject) : ¬ TakenForMissing (.ok raw) := by
  rintro ⟨f, ⟨⟩, -⟩

theorem taken_error_iff {f : Failure} : TakenForMissing (.error f) ↔ f.isMissing = true := by
  constructor
  · rintro ⟨f, ⟨⟩, h⟩
    exact h
  · exact fun h => ⟨f, rfl, h⟩

theorem taken_plain_iff {text : String} :
    TakenForMissing (.error (.plain text)) ↔ Marked text := by
  rw [taken_error_iff, Failure.isMissing_plain]

theorem marked_complaint {api : Api} {body : String} : Marked (api.complaint body) ↔
    ∃ f, api.bodyShape.fault? (Bytes.ofText body) = some f ∧ FaultMarked f (Bytes.ofText body) := by
  unfold Api.complaint
  dsimp only
  cases api.bodyShape.fault? (Bytes.ofText body) with
  | none => simp [not_marked_empty]
  | some f => simp [marked_fault]

/-- A body that cannot be read is taken for a missing object by what is wrong with it. -/
theorem taken_unreadable_iff {api : Api} {body : String} :
    TakenForMissing (.error
      ⟨"Failed to deserialize Azure " ++ api.word ++ " response: " ++ someCause,
        api.complaint body⟩) ↔ Marked (api.complaint body) := by
  have hwords :
      ¬ Marked ("Failed to deserialize Azure " ++ api.word ++ " response: " ++ someCause) := by
    cases api <;> decide
  rw [taken_error_iff, Failure.isMissing_iff]
  exact or_iff_right hwords

/-- A good answer without an object is taken for a missing one by the name, or by what is wrong with
the body. -/
theorem taken_object?_iff {api : Api} {name body : String} :
    TakenForMissing (api.object? name body) ↔
      (api.LacksValue body ∧ Marked name) ∨
        (api.Unreadable body ∧ Marked (api.complaint body)) := by
  cases api with
  | secrets =>
    have hopen : Clear "secret '" := by decide
    have hclose : Clear "' has no value" := by decide
    simp only [Api.object?, Api.LacksValue, Api.Unreadable]
    cases (Json.Raw.read? body).bind SecretBody.read? with
    | none => simpa using @taken_unreadable_iff .secrets body
    | some b =>
      obtain ⟨value, contentType⟩ := b
      cases value with
      | some value => simpa using not_taken_ok _
      | none => simp [taken_plain_iff, hclose.marked_before, hopen.marked_behind]
  | keys =>
    have hopen : Clear "key '" := by decide
    have hclose : Clear "' has no key material" := by decide
    simp only [Api.object?, Api.LacksValue, Api.Unreadable]
    cases Json.read? body with
    | none => simpa using @taken_unreadable_iff .keys body
    | some j =>
      cases hnull : (j.get "key").isNull with
      | false => simpa [hnull] using not_taken_ok _
      | true => simp [hnull, taken_plain_iff, hclose.marked_before, hopen.marked_behind]

/-! ## Replies -/

namespace Reply

/-- The status of an answer has three digits at most. -/
def Sound : Reply → Prop
  | .answered r => r.status < 1000
  | .lost _ => True

/-- The vault answers by its status that there is no such object. -/
def SaysMissing : Reply → Prop
  | .answered r => r.status = 404
  | .lost _ => False

/-- It gives no other account of the failure. -/
def SaysNoMore : Reply → Prop
  | .answered r => (accountMessage? r.body).join = none
  | .lost _ => False

end Reply

/-- A text that came from elsewhere, or the name that was asked for, shows a mark in a failure. -/
inductive ShowsMark (api : Api) (name : String) : Reply → Prop where
  /-- No answer came, and the client's reason has a mark. -/
  | reason {reason : String} : Marked reason → ShowsMark api name (.lost reason)
  /-- The name has a mark, and the failure names the object that has no value. -/
  | name {r : Web.Response} : r.status = 200 → api.LacksValue r.body → Marked name →
    ShowsMark api name (.answered r)
  /-- The body cannot be read, and what is found in it or the place of that has a mark. -/
  | fault {r : Web.Response} {f : Json.Fault} : r.status = 200 → api.Unreadable r.body →
    api.bodyShape.fault? (Bytes.ofText r.body) = some f → FaultMarked f (Bytes.ofText r.body) →
      ShowsMark api name (.answered r)
  /-- The vault's message has a mark. -/
  | message {r : Web.Response} {message : String} : r.status ≠ 200 →
    accountMessage? r.body = some (some message) → Marked message →
      ShowsMark api name (.answered r)
  /-- The body is no account of a failure, and has a mark. -/
  | body {r : Web.Response} : r.status ≠ 200 → accountMessage? r.body = none → Marked r.body →
    ShowsMark api name (.answered r)

variable {api : Api} {name : String}

theorem showsMark_lost_iff {reason : String} :
    ShowsMark api name (.lost reason) ↔ Marked reason := by
  constructor
  · rintro ⟨h⟩
    exact h
  · exact .reason

theorem showsMark_good_iff {r : Web.Response} (hr : r.status = 200) :
    ShowsMark api name (.answered r) ↔ (api.LacksValue r.body ∧ Marked name) ∨
      (api.Unreadable r.body ∧ Marked (api.complaint r.body)) := by
  rw [marked_complaint]
  constructor
  · intro h
    cases h with
    | name _ hlacks hname => exact .inl ⟨hlacks, hname⟩
    | fault _ hunreadable hfault hmarked => exact .inr ⟨hunreadable, _, hfault, hmarked⟩
    | message hbad => exact absurd hr hbad
    | body hbad => exact absurd hr hbad
  · rintro (⟨hlacks, hname⟩ | ⟨hunreadable, f, hfault, hmarked⟩)
    · exact .name hr hlacks hname
    · exact .fault hr hunreadable hfault hmarked

theorem showsMark_bad_iff {r : Web.Response} (hr : r.status ≠ 200) :
    ShowsMark api name (.answered r) ↔
      (match accountMessage? r.body with
        | some (some message) => Marked message
        | some none => False
        | none => Marked r.body) := by
  constructor
  · intro h
    cases h with
    | name hgood => exact absurd hgood hr
    | fault hgood => exact absurd hgood hr
    | message _ hmessage hmarked => simpa only [hmessage] using hmarked
    | body _ hnone hmarked => simpa only [hnone] using hmarked
  · intro h
    cases hmessage : accountMessage? r.body with
    | none => exact .body hr hmessage (by simpa only [hmessage] using h)
    | some message =>
      cases message with
      | none => simp only [hmessage] at h
      | some message => exact .message hr hmessage (by simpa only [hmessage] using h)

/-- A reply is taken for a missing object if the vault says so by its status and nothing else, and
if a text of another origin shows a mark. -/
theorem taken_result_iff {reply : Reply} (h : reply.Sound) :
    TakenForMissing (api.result name reply) ↔
      (reply.SaysMissing ∧ reply.SaysNoMore) ∨ ShowsMark api name reply := by
  cases reply with
  | lost reason =>
    rw [showsMark_lost_iff]
    simp [Api.result, Reply.SaysMissing, taken_plain_iff]
  | answered r =>
    simp only [Api.result, Reply.SaysMissing, Reply.SaysNoMore]
    by_cases hr : r.status = 200
    · rw [if_pos hr, taken_object?_iff, showsMark_good_iff hr, hr]
      simp
    · rw [if_neg hr, taken_plain_iff, marked_failureText, showsMark_bad_iff hr,
        marked_number_iff h]
      cases accountMessage? r.body with
      | none => simp
      | some message => cases message <;> simp

/-! ## Reads -/

/-- The request of a read; there is none for an address that makes no sense and for no name. -/
def request? (v : VaultRef) (kind : ObjectKind) : Option Call :=
  (Web.Address.read? (address v.name)).bind fun a =>
    if v.object.name.isEmpty then none
    else some (.of a (.ofKind kind) v.object.name (nonempty? v.object.version))

namespace Service

theorem client_result (s : Service) (api : Api) (address : String) :
    (s.client api address).1 = match Web.Address.read? address with
      | some a => .ok a
      | none => .error (.plain ("Failed to create Azure Key Vault " ++ api.clientName ++ ": " ++
          someCause)) := by
  unfold client
  cases Web.Address.read? address <;> rfl

/-- Without a request nothing is taken for a missing object. -/
theorem taken_get_iff (s : Service) (answer : Call → Reply) (v : VaultRef) (kind : ObjectKind) :
    TakenForMissing (s.get answer (.ofKind kind) v.name v.object.name
        (nonempty? v.object.version)).result ↔
      ∃ call, request? v kind = some call ∧
        TakenForMissing ((Api.ofKind kind).result v.object.name (answer call)) := by
  have hclient := client_result s (.ofKind kind) (address v.name)
  unfold get request?
  generalize s.client (.ofKind kind) (address v.name) = made at hclient ⊢
  obtain ⟨made, s', said⟩ := made
  cases hread : Web.Address.read? (address v.name) with
  | none =>
    simp only [hread] at hclient
    subst hclient
    simp only [taken_plain_iff, Option.bind_none, reduceCtorEq, false_and, exists_false, iff_false]
    cases Api.ofKind kind <;> decide
  | some a =>
    simp only [hread] at hclient
    subst hclient
    cases hempty : v.object.name.isEmpty with
    | true =>
      simp only [if_true, taken_plain_iff, Option.bind_some, reduceCtorEq, false_and, exists_false,
        iff_false]
      cases Api.ofKind kind <;> decide
    | false => simp

theorem notFound_iff_taken (s : Service) (answer : Call → Reply) (v : VaultRef)
    (kind : ObjectKind) : (∃ t, (s.fetch answer v kind).1 = .error (.notFound t)) ↔
      TakenForMissing (s.get answer (.ofKind kind) v.name v.object.name
        (nonempty? v.object.version)).result := by
  unfold fetch
  dsimp only
  cases (s.get answer (.ofKind kind) v.name v.object.name (nonempty? v.object.version)).result with
  | ok raw => simpa using not_taken_ok raw
  | error f =>
    rw [taken_error_iff]
    cases hf : f.isMissing <;> simp [ReadError.ofFailure, hf]

/-! ## Main result -/

/-- A read ends with an object that was not found exactly if there is a request and its reply says
so by its status and nothing else, or a text shows a mark: the client's reason for no answer, the
vault's message or its whole body, the name of the object if the answer has no value for it, and
what is found in a body that cannot be read, with the numbers of its line and column. So of the
replies that do not say that the object is missing those end so in which a mark shows, whatever else
they say. -/
theorem notFound_iff (s : Service) {answer : Call → Reply} (hsound : ∀ call, (answer call).Sound)
    (v : VaultRef) (kind : ObjectKind) :
    ((∃ t, (s.fetch answer v kind).1 = .error (.notFound t)) ↔
      ∃ call, request? v kind = some call ∧
        (((answer call).SaysMissing ∧ (answer call).SaysNoMore) ∨
          ShowsMark (.ofKind kind) v.object.name (answer call))) ∧
    ∀ call, request? v kind = some call → ¬ (answer call).SaysMissing →
      ((∃ t, (s.fetch answer v kind).1 = .error (.notFound t)) ↔
        ShowsMark (.ofKind kind) v.object.name (answer call)) := by
  have hiff : (∃ t, (s.fetch answer v kind).1 = .error (.notFound t)) ↔
      ∃ call, request? v kind = some call ∧
        (((answer call).SaysMissing ∧ (answer call).SaysNoMore) ∨
          ShowsMark (.ofKind kind) v.object.name (answer call)) := by
    rw [notFound_iff_taken, taken_get_iff]
    exact exists_congr fun call => and_congr_right fun _ => taken_result_iff (hsound call)
  refine ⟨hiff, fun call hcall hsays => ?_⟩
  simp [hiff, hcall, hsays]

/-- A secret without a value is not found if it has one name, and may pass if it has another; a read
that is refused is not found for the number of the request. -/
theorem notFound_iff_mark :
    let named (name : String) : VaultRef := ⟨"https://[::1]/", ⟨name, "secret", none, none⟩⟩
    let withoutValue : Web.Response := ⟨200, "\x7b\x7d"⟩
    let refused : Web.Response :=
      ⟨403, "\x7b\"error\":\x7b\"message\":\"request 14042 is not authorized\"\x7d\x7d"⟩
    (∃ t, (new.fetch (fun _ => withoutValue) (named "db-404") .secret).1 =
        .error (.notFound t)) ∧
      (¬ ∃ t, (new.fetch (fun _ => withoutValue) (named "db") .secret).1 = .error (.notFound t)) ∧
      ∃ t, (new.fetch (fun _ => refused) (named "db") .secret).1 = .error (.notFound t) := by
  intro named withoutValue refused
  have hrequest : ∀ name ∈ ["db-404", "db"],
      (request? (named name) .secret).isSome = true := by decide +kernel
  have hread : (Json.Raw.read? withoutValue.body).bind SecretBody.read? = some ⟨none, none⟩ := by
    decide +kernel
  have hmessage : accountMessage? refused.body = some (some "request 14042 is not authorized") := by
    decide +kernel
  have hwithout (_ : Call) : Reply.Sound withoutValue := show 200 < 1000 by decide
  have hrefused (_ : Call) : Reply.Sound refused := show 403 < 1000 by decide
  obtain ⟨call, hcall⟩ := Option.isSome_iff_exists.1 (hrequest "db-404" (by decide))
  obtain ⟨call', hcall'⟩ := Option.isSome_iff_exists.1 (hrequest "db" (by decide))
  refine ⟨?_, ?_, ?_⟩
  · refine ((notFound_iff new hwithout (named "db-404") .secret).2 call hcall ?_).2 ?_
    · simp [Reply.SaysMissing, withoutValue]
    · exact .name rfl ⟨none, hread⟩ (by decide)
  · rw [(notFound_iff new hwithout (named "db") .secret).2 call' hcall'
      (by simp [Reply.SaysMissing, withoutValue]), showsMark_good_iff rfl]
    rintro (⟨-, hname⟩ | ⟨hunreadable, -⟩)
    · exact absurd hname (by decide)
    · exact absurd (hread.symm.trans hunreadable) (by simp)
  · refine ((notFound_iff new hrefused (named "db") .secret).2 call' hcall' ?_).2 ?_
    · simp [Reply.SaysMissing, refused]
    · exact .message (by decide) hmessage (by decide)

end Service

end VaultProjection.Vault
