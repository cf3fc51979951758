import VaultProjection.Proofs.Json.Lexing

/-!
# Which texts are JSON documents

Every document has its tokens, and a text is read as a document exactly if it spells these tokens.
The blanks between them are free, so the layout of a text never changes the document.

Results:
1. `run_tokens`: the tokens of a document build it, in whatever it stands.
2. `follows_step`: what is built is spelled by the tokens so far.
3. `Raw.read?_eq_some_iff`: a text is read as a document exactly if it spells its tokens.
-/

namespace VaultProjection.Json

/-! ## Documents as tokens -/

/-- Parts with a comma between each two. -/
def separated : List (List Token) → List Token
  | [] => []
  | part :: parts => part ++ parts.flatMap (.comma :: ·)

/-- Parts with a comma behind each one. -/
def followed (parts : List (List Token)) : List Token := parts.flatMap (· ++ [.comma])

namespace Raw

mutual
/-- A document as tokens. -/
def tokens : Raw → List Token
  | .null => [.scalar .null]
  | .bool b => [.scalar (.bool b)]
  | .number v => [.scalar (.number v)]
  | .text t => [.text t]
  | .items rs => .openArray :: separated (itemTokens rs) ++ [.closeArray]
  | .members ms => .openObject :: separated (memberTokens ms) ++ [.closeObject]

def itemTokens : List Raw → List (List Token)
  | [] => []
  | r :: rs => r.tokens :: itemTokens rs

def memberTokens : List (RawText × Raw) → List (List Token)
  | [] => []
  | (k, r) :: ms => (.text k :: .colon :: r.tokens) :: memberTokens ms
end

/-- A member as tokens. -/
def member (m : RawText × Raw) : List Token := .text m.1 :: .colon :: m.2.tokens

theorem itemTokens_eq_map (rs : List Raw) : itemTokens rs = rs.map tokens := by
  induction rs with
  | nil => rfl
  | cons r rs ih => rw [itemTokens, ih, List.map_cons]

theorem memberTokens_eq_map (ms : List (RawText × Raw)) : memberTokens ms = ms.map member := by
  induction ms with
  | nil => rfl
  | cons m ms ih => rw [memberTokens, ih, List.map_cons, member]

theorem tokens_items (rs : List Raw) :
    (items rs).tokens = .openArray :: separated (rs.map tokens) ++ [.closeArray] := by
  rw [tokens, itemTokens_eq_map]

theorem tokens_members (ms : List (RawText × Raw)) :
    (members ms).tokens = .openObject :: separated (ms.map member) ++ [.closeObject] := by
  rw [tokens, memberTokens_eq_map]

end Raw

theorem followed_append (parts : List (List Token)) (part : List Token) :
    followed parts ++ part = separated (parts ++ [part]) := by
  cases parts with
  | nil => simp [followed, separated]
  | cons first parts =>
    induction parts generalizing first with
    | nil => simp [followed, separated]
    | cons second parts ih =>
      have h := ih second
      simp only [followed, separated, List.flatMap_cons, List.cons_append, List.append_assoc] at h ⊢
      rw [h]
      rfl

section

variable {α : Type} (f : α → List Token) (done : List α) (x : α)

/-- One part more, where the parts so far are kept in reverse. -/
theorem followed_reverse :
    followed (done.reverse.map f) ++ f x = separated ((x :: done).reverse.map f) := by
  rw [List.reverse_cons, List.map_append, List.map_singleton, followed_append]

theorem separated_comma :
    separated ((x :: done).reverse.map f) ++ [.comma] = followed ((x :: done).reverse.map f) := by
  rw [← followed_reverse]
  simp [followed]

end

/-! ## The tokens of a document build it -/

namespace Build

variable {st : List Frame} {e : Expect} {b b' : Build} {ts : List Token} {t : Token}

theorem run_append (b : Build) (ts more : List Token) :
    b.run (ts ++ more) = (b.run ts).bind (·.run more) := by
  induction ts generalizing b with
  | nil => rfl
  | cons t ts ih =>
    simp only [List.cons_append, run]
    cases b.step t with
    | none => rfl
    | some b' => exact ih b'

theorem run_singleton (b : Build) (t : Token) : b.run [t] = b.step t := by
  simp only [run]
  cases b.step t <;> rfl

/-- Where a value is put does not depend on what was expected. -/
theorem accept_expect (st : List Frame) (e e' : Expect) (r : Raw) :
    accept ⟨st, e⟩ r = accept ⟨st, e'⟩ r := by
  cases st with
  | nil => rfl
  | cons f st => cases f <;> rfl

/-- The document may stand where a value is expected, and is put there. -/
def Builds (d : Raw) : Prop :=
  ∀ st e, e = .value ∨ e = .valueOrEnd → run ⟨st, e⟩ d.tokens = some (accept ⟨st, e⟩ d)

theorem run_items (st : List Frame) {rs : List Raw} (h : ∀ r ∈ rs, Builds r) (done : List Raw) :
    run ⟨.items done :: st, .more⟩ ((rs.map Raw.tokens).flatMap (.comma :: ·)) =
      some ⟨.items (rs.reverse ++ done) :: st, .more⟩ := by
  induction rs generalizing done with
  | nil => rfl
  | cons r rs ih =>
    obtain ⟨hr, hrs⟩ := List.forall_mem_cons.1 h
    have hfirst : run ⟨.items done :: st, .more⟩ (.comma :: r.tokens) =
        some ⟨.items (r :: done) :: st, .more⟩ := hr (.items done :: st) .value (.inl rfl)
    rw [List.map_cons, List.flatMap_cons, run_append, hfirst, Option.bind_some, ih hrs]
    simp

theorem run_member {m : RawText × Raw} (h : Builds m.2) {done : List (RawText × Raw)}
    {k : RawText} (he : e = .key done ∨ e = .keyOrEnd ∧ done = []) :
    run ⟨.member done k :: st, e⟩ (Raw.member m) = some ⟨.member (m :: done) m.1 :: st, .more⟩ := by
  have hvalue := h (.member done m.1 :: st) .value (.inl rfl)
  rcases he with rfl | ⟨rfl, rfl⟩ <;> exact hvalue

theorem run_members (st : List Frame) {ms : List (RawText × Raw)} (h : ∀ m ∈ ms, Builds m.2)
    (done : List (RawText × Raw)) (k : RawText) : ∃ k',
    run ⟨.member done k :: st, .more⟩ ((ms.map Raw.member).flatMap (.comma :: ·)) =
      some ⟨.member (ms.reverse ++ done) k' :: st, .more⟩ := by
  induction ms generalizing done k with
  | nil => exact ⟨k, rfl⟩
  | cons m ms ih =>
    obtain ⟨hm, hms⟩ := List.forall_mem_cons.1 h
    have hfirst : run ⟨.member done k :: st, .more⟩ (.comma :: Raw.member m) =
        some ⟨.member (m :: done) m.1 :: st, .more⟩ := run_member hm (.inl rfl)
    obtain ⟨k', hrest⟩ := ih hms (m :: done) m.1
    refine ⟨k', ?_⟩
    rw [List.map_cons, List.flatMap_cons, run_append, hfirst, Option.bind_some, hrest]
    simp

theorem run_tokens (d : Raw) : Builds d := by
  intro st e he
  induction d generalizing st e with
  | null | bool | number | text => rcases he with rfl | rfl <;> rfl
  | items rs ih =>
    have hopen : step ⟨st, e⟩ .openArray = some ⟨.items [] :: st, .valueOrEnd⟩ := by
      rcases he with rfl | rfl <;> rfl
    rw [Raw.tokens_items, List.cons_append, run, hopen, Option.bind_some]
    cases rs with
    | nil => exact congrArg some (accept_expect ..)
    | cons r rs =>
      -- The first part stands behind the bracket, every other one behind a comma.
      obtain ⟨hr, hrs⟩ := List.forall_mem_cons.1 ih
      have hfirst : run ⟨.items [] :: st, .valueOrEnd⟩ r.tokens = some ⟨.items [r] :: st, .more⟩ :=
        hr _ _ (.inr rfl)
      have hrest := run_items st hrs [r]
      rw [List.map_cons, separated, run_append, run_append, hfirst, Option.bind_some, hrest,
        Option.bind_some, run_singleton]
      have hdone : (rs.reverse ++ [r]).reverse = r :: rs := by simp
      show some (accept ⟨st, .more⟩ (.items (rs.reverse ++ [r]).reverse)) = _
      rw [hdone, accept_expect]
  | members ms ih =>
    have hopen : step ⟨st, e⟩ .openObject =
        some ⟨.member [] ⟨none, true⟩ :: st, .keyOrEnd⟩ := by
      rcases he with rfl | rfl <;> rfl
    rw [Raw.tokens_members, List.cons_append, run, hopen, Option.bind_some]
    cases ms with
    | nil => exact congrArg some (accept_expect ..)
    | cons m ms =>
      obtain ⟨hm, hms⟩ := List.forall_mem_cons.1 ih
      have hfirst : run ⟨.member [] ⟨none, true⟩ :: st, .keyOrEnd⟩ (Raw.member m) =
          some ⟨.member [m] m.1 :: st, .more⟩ := run_member hm (.inr ⟨rfl, rfl⟩)
      obtain ⟨k, hrest⟩ := run_members st hms [m] m.1
      rw [List.map_cons, separated, run_append, run_append, hfirst, Option.bind_some, hrest,
        Option.bind_some, run_singleton]
      have hdone : (ms.reverse ++ [m]).reverse = m :: ms := by simp
      show some (accept ⟨st, .more⟩ (.members (ms.reverse ++ [m]).reverse)) = _
      rw [hdone, accept_expect]

/-! ## What is built is spelled by the tokens so far -/

/-- The tokens that lead from the start of a container to its next value. -/
def lead : Frame → List Token
  | .items done => .openArray :: followed (done.reverse.map Raw.tokens)
  | .member done k => .openObject :: followed (done.reverse.map Raw.member) ++ [.text k, .colon]

/-- The tokens that lead to the next value of the innermost container. -/
def leads (st : List Frame) : List Token := st.reverse.flatMap lead

theorem leads_cons (f : Frame) (st : List Frame) : leads (f :: st) = leads st ++ lead f := by
  simp [leads]

/-- After these tokens the machine stands here. -/
inductive Follows : List Token → Build → Prop where
  | value (st : List Frame) : Follows (leads st) ⟨st, .value⟩
  | valueOrEnd (st : List Frame) :
    Follows (leads st ++ [.openArray]) ⟨.items [] :: st, .valueOrEnd⟩
  | keyOrEnd (st : List Frame) (k : RawText) :
    Follows (leads st ++ [.openObject]) ⟨.member [] k :: st, .keyOrEnd⟩
  | key (st : List Frame) (done : List (RawText × Raw)) (k : RawText) :
    Follows (leads st ++ .openObject :: followed (done.reverse.map Raw.member))
      ⟨.member done k :: st, .key done⟩
  | colon (st : List Frame) (f : Frame) (done : List (RawText × Raw)) (k : RawText) :
    Follows (leads st ++ .openObject :: followed (done.reverse.map Raw.member) ++ [.text k])
      ⟨f :: st, .colon done k⟩
  | moreItems (st : List Frame) (done : List Raw) (r : Raw) :
    Follows (leads st ++ .openArray :: separated ((r :: done).reverse.map Raw.tokens))
      ⟨.items (r :: done) :: st, .more⟩
  | moreMembers (st : List Frame) (done : List (RawText × Raw)) (m : RawText × Raw) (k : RawText) :
    Follows (leads st ++ .openObject :: separated ((m :: done).reverse.map Raw.member))
      ⟨.member (m :: done) k :: st, .more⟩
  | nothing (d : Raw) : Follows d.tokens ⟨[], .nothing d⟩

theorem follows_accept (st : List Frame) (e : Expect) (r : Raw) :
    Follows (leads st ++ r.tokens) (accept ⟨st, e⟩ r) := by
  cases st with
  | nil => exact .nothing r
  | cons f st =>
    rw [leads_cons]
    cases f with
    | items done =>
      have h := Follows.moreItems st done r
      rwa [← followed_reverse, ← List.cons_append, ← List.append_assoc] at h
    | member done k =>
      have h := Follows.moreMembers st done (k, r) k
      rw [← followed_reverse] at h
      show Follows _ ⟨.member ((k, r) :: done) k :: st, .more⟩
      simpa [lead, Raw.member] using h

/-- A scalar token is the whole of a document. -/
def Scalar (t : Token) : Prop := ∀ r, t = .scalar r → r.tokens = [.scalar r]

theorem follows_value (ht : Scalar t) (h : value ⟨st, e⟩ t = some b') :
    Follows (leads st ++ [t]) b' := by
  cases t with
  | text t =>
    cases h
    exact follows_accept st e (.text t)
  | scalar r =>
    cases h
    exact ht r rfl ▸ follows_accept st e r
  | openArray =>
    cases h
    exact .valueOrEnd st
  | openObject =>
    cases h
    exact .keyOrEnd st _
  | _ => cases h

theorem follows_closeItems (st : List Frame) (e : Expect) (rs : List Raw) :
    Follows (leads st ++ .openArray :: separated (rs.map Raw.tokens) ++ [.closeArray])
      (accept ⟨st, e⟩ (.items rs)) := by
  have h := follows_accept st e (.items rs)
  rwa [Raw.tokens_items, ← List.append_assoc] at h

theorem follows_closeMembers (st : List Frame) (e : Expect) (ms : List (RawText × Raw)) :
    Follows (leads st ++ .openObject :: separated (ms.map Raw.member) ++ [.closeObject])
      (accept ⟨st, e⟩ (.members ms)) := by
  have h := follows_accept st e (.members ms)
  rwa [Raw.tokens_members, ← List.append_assoc] at h

theorem follows_step (hf : Follows ts b) (ht : Scalar t) (h : b.step t = some b') :
    Follows (ts ++ [t]) b' := by
  cases hf with
  | value st => exact follows_value ht h
  | valueOrEnd st =>
    have hlead : leads st ++ [.openArray] = leads (.items [] :: st) := by
      rw [leads_cons]
      rfl
    cases t with
    | closeArray =>
      cases h
      exact follows_closeItems st _ []
    | _ => exact hlead ▸ follows_value (e := .valueOrEnd) ht h
  | keyOrEnd st k =>
    cases t with
    | closeObject =>
      cases h
      exact follows_closeMembers st _ []
    | text key =>
      cases h
      exact .colon st _ [] key
    | _ => cases h
  | key st done k =>
    cases t with
    | text key =>
      cases h
      exact .colon st _ done key
    | _ => cases h
  | colon st f done k =>
    cases t with
    | colon =>
      cases h
      have hf := Follows.value (.member done k :: st)
      rw [leads_cons] at hf
      simpa [lead] using hf
    | _ => cases h
  | moreItems st done r =>
    cases t with
    | comma =>
      cases h
      have hf := Follows.value (.items (r :: done) :: st)
      rw [leads_cons, lead] at hf
      rwa [List.append_assoc, List.cons_append, separated_comma]
    | closeArray =>
      cases h
      exact follows_closeItems st _ _
    | _ => cases h
  | moreMembers st done m k =>
    cases t with
    | comma =>
      cases h
      have hf := Follows.key st (m :: done) k
      rwa [List.append_assoc, List.cons_append, separated_comma]
    | closeObject =>
      cases h
      exact follows_closeMembers st _ _
    | _ => cases h
  | nothing d => cases t <;> cases h

theorem follows_run {more : List Token} (hf : Follows ts b) (ht : ∀ t ∈ more, Scalar t)
    (h : b.run more = some b') : Follows (ts ++ more) b' := by
  induction more generalizing ts b with
  | nil =>
    cases h
    rwa [List.append_nil]
  | cons t more ih =>
    obtain ⟨ht, hmore⟩ := List.forall_mem_cons.1 ht
    obtain ⟨next, hstep, hrun⟩ := Option.bind_eq_some_iff.1 h
    have hall := ih (follows_step hf ht hstep) hmore hrun
    rwa [List.append_assoc] at hall

end Build

theorem scalar_of_spells {cs : List Char} {ts : List Token} (h : Spells cs ts) :
    ∀ t ∈ ts, Build.Scalar t := by
  induction h with
  | nil => nofun
  | blank _ _ ih => exact ih
  | lexeme hw _ ih =>
    refine List.forall_mem_cons.2 ⟨?_, ih⟩
    rintro r rfl
    cases hw with
    | word hw => cases hw <;> rfl
  | number _ _ _ _ ih =>
    refine List.forall_mem_cons.2 ⟨?_, ih⟩
    rintro r ⟨⟩
    rfl

/-! ## Main result -/

/-- A text is read as a document exactly if it spells the document's tokens, whatever the blanks. -/
theorem Raw.read?_eq_some_iff {s : String} {d : Raw} :
    Raw.read? s = some d ↔ Spells s.toList d.tokens := by
  constructor
  · intro h
    obtain ⟨ts, hts, h⟩ := Option.bind_eq_some_iff.1 h
    obtain ⟨b, hb, h⟩ := Option.bind_eq_some_iff.1 h
    have hspells := tokens_eq_some_iff.1 hts
    have hf := Build.follows_run (.value []) (scalar_of_spells hspells) hb
    split at h
    · next r hr =>
      cases h
      obtain ⟨st, e⟩ := b
      obtain rfl : e = .nothing d := hr
      cases hf
      exact hspells
    · cases h
  · intro h
    have hrun : Build.start.run d.tokens = some ⟨[], .nothing d⟩ :=
      Build.run_tokens d [] .value (.inl rfl)
    simp [Raw.read?, tokens_eq_some_iff.2 h, hrun]

end VaultProjection.Json
