import VaultProjection.Digest
import VaultProjection.Proofs.Json.Writing
import VaultProjection.Proofs.Projection.Recipe

/-!
# Documents and their layout

A multi-key secret is a JSON document whose members become the entries of an output. The entries
hold all that the document says, and nothing of how it is written: members in another order and
other blanks make the same entries, so they are never taken for a change.

Results:
1. `standsFor_memberText`: the text of an exact value tells the value.
2. `entries_of_read?`: the members of a document are its entries, each under its name.
3. `projected_whole`: both outputs hold each member, whatever order and blanks the document has.
-/

namespace VaultProjection

open Json (Raw maxDepth)

namespace Document

/-- What the text of an entry says of the value that it stands for. A string is taken as it is; the
text of any other value is JSON that is read as this value. -/
def StandsFor (text : String) : Json → Prop
  | .str s => text = s
  | j => Json.read? text = some j

theorem standsFor_memberText {j : Json} (h : j.Exact (maxDepth - 1)) :
    StandsFor (memberText j) j := by
  have hread : Json.read? j.compact = some j := Json.read?_compact h.succ
  cases j with
  | str s => rfl
  | _ => exact hread

/-- The entries depend on the value alone. -/
theorem entries_congr {s s' : String} (h : Json.read? s' = Json.read? s) :
    entries .json s' = entries .json s := by
  simp only [entries, read?, h]

variable {s : String} {ms : List (Json.RawText × Raw)}

/-- An accepted document has an entry for each member. -/
theorem entries_of_read? (hread : Raw.read? s = some (.members ms))
    (hexact : (Raw.members ms).Exact) (haccepted : (Json.read? s).isSome) :
    ∃ texts, entries .json s = .ok texts ∧ Entries.Sorted texts ∧
      ((Entries.keys texts).map some).Perm (ms.map (·.1.value?)) ∧
      ∀ m ∈ ms, ∃ name j text, m.1.value? = some name ∧ m.2.value? (maxDepth - 1) = some j ∧
        Entries.get? texts name = some text ∧ StandsFor text j := by
  have hdocument : Json.read? s = (Raw.members ms).value? maxDepth := by
    rw [Json.read?, hread]
    rfl
  obtain ⟨j, hj⟩ := Option.isSome_iff_exists.1 haccepted
  obtain ⟨es, hes, rfl⟩ := Raw.value?_members.1 (hdocument.symm.trans hj)
  cases hexact with
  | members hn hms =>
    have hperm : (Entries.ofList es).Perm es := Entries.ofList_perm (Raw.keys_nodup hes hn)
    have hsorted := Entries.sorted_ofList es
    refine ⟨Entries.mapValues memberText (Entries.ofList es), ?_, ?_, ?_, fun m hm => ?_⟩
    · simp only [entries, read?, hj]
    · rwa [Entries.Sorted, Entries.keys_mapValues]
    · rw [Entries.keys_mapValues, Raw.names_of_makes hes]
      exact (hperm.map _).map _
    · obtain ⟨⟨name, j⟩, he, hname, hvalue⟩ := Json.exists_of_mem_left hes hm
      refine ⟨name, j, memberText j, hname, hvalue, ?_, ?_⟩
      · rw [Entries.get?_mapValues, hsorted.get?_of_mem (hperm.mem_iff.2 he)]
        rfl
      · exact standsFor_memberText ((hms m hm).value hvalue)

end Document

namespace Handler

variable {r : Resource}

theorem result_documentRecipe {α : Type}
    (hformat : Document.format r.spec.vault.object.contentType = .ok .json) (value : String → α)
    (raw : Vault.RawObject) : (documentRecipe r value).result (fun _ => .ok raw) =
      match Document.entries .json raw.value with
      | .ok es => .ok (es.mapValues value)
      | .error f => .error (.invalidDocument .json f) := by
  rw [documentRecipe, hformat]
  rfl

/-- The data of an output depend on the document's value alone. -/
theorem result_multiKey_congr
    (hformat : Document.format r.spec.vault.object.contentType = .ok .json)
    {raw other : Vault.RawObject} (h : Json.read? other.value = Json.read? raw.value)
    (k : OutputKind) : (multiKey.recipe r k).result (fun _ => .ok other) =
      (multiKey.recipe r k).result (fun _ => .ok raw) := by
  cases k with
  | secret =>
    show (documentRecipe r Bytes.ofText).result _ = (documentRecipe r Bytes.ofText).result _
    rw [result_documentRecipe hformat, result_documentRecipe hformat, Document.entries_congr h]
  | configMap =>
    show (documentRecipe r id).result _ = (documentRecipe r id).result _
    rw [result_documentRecipe hformat, result_documentRecipe hformat, Document.entries_congr h]

/-! ## Main result -/

/-- A JSON document that is accepted, with distinct names in every object and no numbers but
integers of 64 bits, is projected whole: each member has one entry under its name, a string as it is
and any other value as JSON text that is read as this value; a Secret holds the bytes of the texts
that a ConfigMap holds. Any text that spells the document with its members in another order, at any
depth, with any blanks between its tokens, has the same value. A document of the same value makes
the same data, and the digest of an object that was filled from the one is the digest that the other
asks for. -/
theorem projected_whole (r : Resource) (raw : Vault.RawObject) (ms : List (Json.RawText × Raw))
    (hformat : Document.format r.spec.vault.object.contentType = .ok .json)
    (hread : Raw.read? raw.value = some (.members ms)) (hexact : (Raw.members ms).Exact)
    (haccepted : (Json.read? raw.value).isSome) :
    (∃ texts : Entries String,
      (multiKey.configMapData r).result (fun _ => .ok raw) = .ok texts ∧
      (multiKey.secretData r).result (fun _ => .ok raw) = .ok (texts.mapValues Bytes.ofText) ∧
      Entries.Sorted texts ∧ ((Entries.keys texts).map some).Perm (ms.map (·.1.value?)) ∧
      ∀ m ∈ ms, ∃ name j text, m.1.value? = some name ∧ m.2.value? (maxDepth - 1) = some j ∧
        Entries.get? texts name = some text ∧ Document.StandsFor text j) ∧
    (∀ d (s : String), Raw.Reordered (.members ms) d → Json.Spells s.toList d.tokens →
      Json.read? s = Json.read? raw.value) ∧
    ∀ (other : Vault.RawObject), Json.read? other.value = Json.read? raw.value → ∀ k,
      (multiKey.recipe r k).result (fun _ => .ok other) =
        (multiKey.recipe r k).result (fun _ => .ok raw) ∧
      ∀ (p p' : k.Payload) (o : k.Object), (multiKey.recipe r k).result (fun _ => .ok raw) = .ok p →
        (multiKey.recipe r k).result (fun _ => .ok other) = .ok p' →
          Digest.ofPayload (OutputKind.content (OutputKind.replaceContent o p)) =
            Digest.ofPayload p' := by
  refine ⟨?_, fun d s hd hs => ?_,
    fun other hother k => ⟨result_multiKey_congr hformat hother k, ?_⟩⟩
  · obtain ⟨texts, htexts, hsorted, hnames, hmembers⟩ :=
      Document.entries_of_read? hread hexact haccepted
    have hid : texts.mapValues id = texts := by simp [Entries.mapValues]
    refine ⟨texts, ?_, ?_, hsorted, hnames, hmembers⟩
    · show (documentRecipe r id).result _ = _
      simp only [result_documentRecipe hformat, htexts, hid]
    · show (documentRecipe r Bytes.ofText).result _ = _
      simp only [result_documentRecipe hformat, htexts]
  · have hvalue := (hd.keeps hexact).2 maxDepth
    rw [Json.read?, Json.read?, Raw.read?_eq_some_iff.2 hs, hread]
    exact hvalue
  · intro p p' o hp hp'
    rw [result_multiKey_congr hformat hother, hp] at hp'
    cases hp'
    rw [OutputKind.content_replaceContent]

/-- A resource whose object is a document. -/
def documented : Resource :=
  ⟨Kube.ObjectMeta.empty, ⟨⟨"vault", ⟨"db", "multi-key-value-secret", none, none⟩⟩,
    ⟨some ⟨"login", none, none⟩, none, []⟩⟩, none⟩

/-- A document with an object in it. -/
def sampleDocument : Vault.RawObject :=
  ⟨"\x7b\"user\":\"admin\",\"tls\":\x7b\"on\":true,\"min\":12\x7d\x7d", none⟩

/-- The same document, with other blanks and another order of the members inside and outside. -/
def sampleRelaid : Vault.RawObject :=
  ⟨"\x7b \"tls\": \x7b\"min\": 12, \"on\": true\x7d,\n  \"user\": \"admin\" \x7d", none⟩

def sampleUser : Json.RawText × Raw := (⟨some "user", true⟩, .text ⟨some "admin", true⟩)

def sampleOn : Json.RawText × Raw := (⟨some "on", true⟩, .bool true)

def sampleMin : Json.RawText × Raw := (⟨some "min", true⟩, .number (some (.int 12)))

/-- The inner object. -/
def sampleTls (ms : List (Json.RawText × Raw)) : Json.RawText × Raw :=
  (⟨some "tls", true⟩, .members ms)

theorem projected_whole_login :
    ((multiKey.configMapData documented).result (fun _ => .ok sampleDocument)).toOption =
      some [("tls", "\x7b\"min\":12,\"on\":true\x7d"), ("user", "admin")] ∧
    Json.read? sampleRelaid.value = Json.read? sampleDocument.value ∧
    (multiKey.secretData documented).result (fun _ => .ok sampleRelaid) =
      (multiKey.secretData documented).result (fun _ => .ok sampleDocument) := by
  have hread : Raw.read? sampleDocument.value =
      some (.members [sampleUser, sampleTls [sampleOn, sampleMin]]) := rfl
  have hrelaid : Raw.read? sampleRelaid.value =
      some (.members [sampleTls [sampleMin, sampleOn], sampleUser]) := rfl
  have hinner : (Raw.members [sampleOn, sampleMin]).Exact :=
    .members (by decide) (List.forall_mem_cons.2
      ⟨.bool true, List.forall_mem_singleton.2 (.int (by decide))⟩)
  have hexact : (Raw.members [sampleUser, sampleTls [sampleOn, sampleMin]]).Exact :=
    .members (by decide) (List.forall_mem_cons.2 ⟨.text _, List.forall_mem_singleton.2 hinner⟩)
  have hreordered : Raw.Reordered (.members [sampleUser, sampleTls [sampleOn, sampleMin]])
      (.members [sampleTls [sampleMin, sampleOn], sampleUser]) :=
    .trans (.member [sampleUser] [] rfl (.perm (.swap ..))) (.perm (.swap ..))
  obtain ⟨-, hlayout, hsame⟩ :=
    projected_whole documented sampleDocument _ rfl hread hexact (by decide +kernel)
  have hvalue := hlayout _ _ hreordered (Raw.read?_eq_some_iff.1 hrelaid)
  exact ⟨by decide +kernel, hvalue, (hsame sampleRelaid hvalue .secret).1⟩

end Handler

end VaultProjection
