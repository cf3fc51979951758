import Mathlib.Algebra.Group.Nat.Defs
import Mathlib.Data.List.Basic
import VaultProjection.Digest
import VaultProjection.Proofs.Text.Offsets

/-!
# What a preimage tells apart

The bytes that are hashed can be taken apart again. The tag tells the kind of payload, each length
tells where the name or value behind it ends, and the order of the names makes one list out of all
lists with the same pairs. Names and values may hold any bytes, also those of other entries.

Results:
1. `Bytes.ofUInt64_inj`, `framed_append_inj`: a length and what it stands in front of can be read
   back, whatever follows.
2. `entries_inj`: so can entry after entry.
3. `preimage_eq_iff`: preimages are equal exactly for payloads of one kind with the same pairs, so
   digests are too, but for collisions of the hash.
-/

namespace VaultProjection

/-! ## Bytes -/

namespace Bytes

/-- Eight bytes tell numbers below 2^64 apart. -/
theorem ofUInt64_inj {m n : Nat} (hm : m < 2 ^ 64) (hn : n < 2 ^ 64)
    (h : ofUInt64 m = ofUInt64 n) : m = n := by
  simp only [ofUInt64, List.map_cons, List.map_nil, List.cons.injEq, ← UInt8.toNat_inj,
    Nat.toUInt8_eq, UInt8.toNat_ofNat', Nat.shiftRight_eq_div_pow] at h
  omega

theorem digitChar_inj : ∀ m < 16, ∀ n < 16, Nat.digitChar m = Nat.digitChar n → m = n := by
  decide

theorem toHex_injective : Function.Injective toHex := by
  intro a b h
  have hdigits := String.ofList_injective h
  clear h
  induction a generalizing b with
  | nil =>
    cases b with
    | nil => rfl
    | cons y b => simp at hdigits
  | cons x a ih =>
    cases b with
    | nil => simp at hdigits
    | cons y b =>
      simp only [List.flatMap_cons, List.cons_append, List.nil_append, List.cons.injEq] at hdigits
      obtain ⟨hhigh, hlow, hrest⟩ := hdigits
      have hx := x.toNat_lt
      have hy := y.toNat_lt
      have hdiv := digitChar_inj _ (by omega) _ (by omega) hhigh
      have hmod := digitChar_inj _ (by omega) _ (by omega) hlow
      rw [ih hrest, UInt8.toNat_inj.1 (by omega : x.toNat = y.toNat)]

end Bytes

/-! ## Payloads -/

/-- Payloads of the same kind, with the same pairs in any order. -/
def SamePairs : {k k' : OutputKind} → k.Payload → k'.Payload → Prop
  | .secret, .secret, p, q => ∀ e, e ∈ p ↔ e ∈ q
  | .configMap, .configMap, p, q => ∀ e, e ∈ p ↔ e ∈ q
  | _, _, _, _ => False

/-- Texts are told apart by their bytes. -/
theorem samePairs_iff {k : OutputKind} {p q : k.Payload} :
    SamePairs p q ↔ ∀ e, e ∈ OutputKind.bytes p ↔ e ∈ OutputKind.bytes q := by
  cases k with
  | secret => rfl
  | configMap =>
    have hinj : Function.Injective fun e : String × String => (e.1, Bytes.ofText e.2) := by
      rintro ⟨k, v⟩ ⟨k', v'⟩ h
      obtain ⟨hk, hv⟩ := Prod.mk.inj h
      exact Prod.ext hk (Bytes.ofText_injective hv)
    constructor
    · intro h e
      simp only [OutputKind.bytes, Entries.mapValues, List.mem_map]
      exact exists_congr fun e' => and_congr_left fun _ => h e'
    · intro h e
      have he := h (e.1, Bytes.ofText e.2)
      exact ((List.mem_map_of_injective hinj).symm.trans he).trans (List.mem_map_of_injective hinj)

namespace Sha256

/-- Different messages with the same hash. -/
def Collide (a b : Bytes) : Prop := a ≠ b ∧ hash a = hash b

end Sha256

namespace Digest

/-! ## Lengths in front -/

/-- Bytes with their number in front end where they say, whatever follows. -/
theorem framed_append_inj {a b x y : Bytes} (ha : a.length < 2 ^ 64) (hb : b.length < 2 ^ 64)
    (h : framed a ++ x = framed b ++ y) : a = b ∧ x = y := by
  simp only [framed, List.append_assoc] at h
  obtain ⟨hlength, hrest⟩ := List.append_inj h rfl
  exact List.append_inj hrest (Bytes.ofUInt64_inj ha hb hlength)

/-- The lengths of a name and a value fit in 64 bits. -/
def Fits (e : String × Bytes) : Prop := (Bytes.ofText e.1).length < 2 ^ 64 ∧ e.2.length < 2 ^ 64

theorem entry_append_inj {e f : String × Bytes} {x y : Bytes} (he : Fits e) (hf : Fits f)
    (h : entry e.1 e.2 ++ x = entry f.1 f.2 ++ y) : e = f ∧ x = y := by
  simp only [entry, List.append_assoc] at h
  obtain ⟨hkey, hrest⟩ := framed_append_inj he.1 hf.1 h
  obtain ⟨hvalue, hrest⟩ := framed_append_inj he.2 hf.2 hrest
  exact ⟨Prod.ext (Bytes.ofText_injective hkey) hvalue, hrest⟩

theorem entry_append_ne_nil (e : String × Bytes) (x : Bytes) : entry e.1 e.2 ++ x ≠ [] := by
  simp [entry, framed, Bytes.ofUInt64]

theorem entries_inj {es fs : List (String × Bytes)} (he : ∀ e ∈ es, Fits e)
    (hf : ∀ f ∈ fs, Fits f)
    (h : es.flatMap (fun (k, v) => entry k v) = fs.flatMap fun (k, v) => entry k v) : es = fs := by
  induction es generalizing fs with
  | nil =>
    cases fs with
    | nil => rfl
    | cons f fs => exact absurd h.symm (entry_append_ne_nil f _)
  | cons e es ih =>
    cases fs with
    | nil => exact absurd h (entry_append_ne_nil e _)
    | cons f fs =>
      rw [List.forall_mem_cons] at he hf
      obtain ⟨rfl, hrest⟩ := entry_append_inj he.1 hf.1 h
      rw [ih he.2 hf.2 hrest]

/-! ## The tag in front -/

/-- No preimage of one kind begins like one of the other. -/
theorem tag_append_inj {k k' : OutputKind} {x y : Bytes} (h : k.tag ++ x = k'.tag ++ y) :
    k = k' ∧ x = y := by
  have hhead : ∀ (k : OutputKind) (x : Bytes), (k.tag ++ x).head? = k.tag.head? := by
    intro k x
    cases k <;> rfl
  have hk : k = k' := by
    have hheads := congrArg List.head? h
    rw [hhead, hhead] at hheads
    revert hheads
    cases k <;> cases k' <;> decide
  subst hk
  exact ⟨rfl, List.append_cancel_left h⟩

/-! ## Main result -/

/-- Pairs with each name once, all of whose lengths fit in 64 bits. -/
structure Framable (es : List (String × Bytes)) : Prop where
  nodup : (Entries.keys es).Nodup
  fits : ∀ e ∈ es, Fits e

theorem Framable.ofList {es : List (String × Bytes)} (h : Framable es) :
    ∀ e ∈ Entries.ofList es, Fits e :=
  fun e he => h.fits e ((Entries.ofList_perm h.nodup).subset he)

/-- Preimages are equal exactly for payloads of one kind with the same pairs. Digests are equal for
these, and else only if the hash collides on the preimages. -/
theorem preimage_eq_iff {k k' : OutputKind} {p : k.Payload} {q : k'.Payload}
    (hp : Framable (OutputKind.bytes p)) (hq : Framable (OutputKind.bytes q)) :
    (preimage k (OutputKind.bytes p) = preimage k' (OutputKind.bytes q) ↔ SamePairs p q) ∧
      ((ofPayload p).hex = (ofPayload q).hex ↔ SamePairs p q ∨
        Sha256.Collide (preimage k (OutputKind.bytes p)) (preimage k' (OutputKind.bytes q))) := by
  have hpre : preimage k (OutputKind.bytes p) = preimage k' (OutputKind.bytes q) ↔
      SamePairs p q := by
    constructor
    · intro h
      obtain ⟨rfl, hentries⟩ := tag_append_inj h
      have hlists := entries_inj hp.ofList hq.ofList hentries
      exact samePairs_iff.2 ((Entries.ofList_eq_iff hp.nodup hq.nodup).1 hlists)
    · intro h
      have hk : k = k' := by
        cases k <;> cases k' <;> first | rfl | cases h
      subst hk
      rw [preimage, preimage, (Entries.ofList_eq_iff hp.nodup hq.nodup).2 (samePairs_iff.1 h)]
  refine ⟨hpre, ?_⟩
  have hhex : (ofPayload p).hex = (ofPayload q).hex ↔
      Sha256.hash (preimage k (OutputKind.bytes p)) =
        Sha256.hash (preimage k' (OutputKind.bytes q)) :=
    Bytes.toHex_injective.eq_iff
  rw [hhex, ← hpre, Sha256.Collide]
  constructor
  · intro h
    by_cases heq : preimage k (OutputKind.bytes p) = preimage k' (OutputKind.bytes q)
    · exact .inl heq
    · exact .inr ⟨heq, h⟩
  · rintro (heq | ⟨-, h⟩)
    · rw [heq]
    · exact h

/-- A name and a password. -/
def login : OutputKind.secret.Payload := [("user", [114, 111, 111, 116]), ("pass", [112, 64, 115])]

/-- The same as texts, the other way round. -/
def loginText : OutputKind.configMap.Payload := [("pass", "p@s"), ("user", "root")]

theorem framable_login : Framable (OutputKind.bytes login) :=
  ⟨by decide, by simp only [login, OutputKind.bytes, Fits]; decide⟩

theorem framable_reversed : Framable (@OutputKind.bytes .secret login.reverse) :=
  ⟨by decide, by simp only [login, OutputKind.bytes, Fits]; decide⟩

theorem framable_loginText : Framable (OutputKind.bytes loginText) :=
  ⟨by decide, by simp only [loginText, OutputKind.bytes, Entries.mapValues, Fits]; decide⟩

/-- The order of the pairs does not matter; the kind does, though its pairs have the same bytes. -/
theorem preimage_eq_iff_login :
    (Framable (OutputKind.bytes login) ∧ Framable (@OutputKind.bytes .secret login.reverse) ∧
        Framable (OutputKind.bytes loginText)) ∧
      (@ofPayload .secret login.reverse).hex = (ofPayload login).hex ∧
      @OutputKind.bytes .secret login.reverse = OutputKind.bytes loginText ∧
      preimage .secret (@OutputKind.bytes .secret login.reverse) ≠
        preimage .configMap (OutputKind.bytes loginText) := by
  refine ⟨⟨framable_login, framable_reversed, framable_loginText⟩, ?_, by decide, ?_⟩
  · refine (preimage_eq_iff framable_reversed framable_login).2.2 (.inl fun e => ?_)
    exact List.mem_reverse
  · intro h
    exact (preimage_eq_iff framable_reversed framable_loginText).1.1 h

end Digest

end VaultProjection
