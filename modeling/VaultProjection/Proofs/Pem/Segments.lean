import VaultProjection.Pem
import VaultProjection.Proofs.Text.Search

/-!
# Which lines a block is made of

A block is cut out of everything that was read since the block before it: from the first mark on, so
sections that were skipped or begun anew on the way stand in it too. `segments` divides the lines of
a text at the ends of its blocks and notes for each line the section it belongs to.

Results:
1. `blocks_eq`: the blocks of a text are those of its segments.
2. `segments_sound`: a section with a line in a segment begins in it, and its last line ends a
   section with the label of its kind.
3. `from?_plain`: a block is cut at a line. `shown_of_begins`: it shows every `BEGIN` line, and
   `display_cut`: what is left of the line that is cut belongs to no section.
-/

namespace VaultProjection.Pem

/-! ## Lines -/

/-- The line ends in one character that ends lines. -/
def Line.Closed (l : Line) : Prop := ∃ c, isLineEnd c = true ∧ l.ending = [c]

/-- Every line but the last one is closed, and the last one is closed or the end of the text. -/
def Ordered : List Line → Prop
  | [] => True
  | l :: ls => (l.Closed ∨ l.ending = [] ∧ ls = []) ∧ Ordered ls

theorem lines_ordered (cs : List Char) : Ordered (lines cs) := by
  induction cs with
  | nil => trivial
  | cons c rest ih =>
    unfold lines
    split
    · next hc => exact ⟨.inl ⟨c, hc, rfl⟩, ih⟩
    · split
      · exact ⟨.inr ⟨rfl, rfl⟩, trivial⟩
      · next hls =>
        exact ⟨.inr ⟨rfl, rfl⟩, trivial⟩
      · next l ls hls =>
        rw [hls] at ih
        exact ih

/-- The text of lines. -/
def flat (ls : List Line) : List Char := ls.flatMap fun l => l.text ++ l.ending

theorem dash_mem_endLine (label : List Char) : '-' ∈ endLine label :=
  List.mem_append_left _ (List.mem_append_left _ (by decide))

/-! ## The first mark -/

theorem isPrefixOf_append_cons {m a rest : List Char} {c : Char} (hc : c ∉ m) :
    m.isPrefixOf (a ++ c :: rest) = m.isPrefixOf a := by
  induction m generalizing a with
  | nil => simp
  | cons d m ih =>
    simp only [List.mem_cons, not_or] at hc
    cases a with
    | nil => simp [List.isPrefixOf, Ne.symm hc.1]
    | cons x a => simp [List.isPrefixOf, ih hc.2]

/-- What is looked for does not reach over a character that it does not hold. -/
theorem from?_append_cons {m : List Char} {c : Char} (hm : m ≠ []) (hc : c ∉ m)
    (a rest : List Char) : Text.from? m (a ++ c :: rest) =
      match Text.from? m a with
      | some cut => some (cut ++ c :: rest)
      | none => Text.from? m rest := by
  induction a with
  | nil =>
    have hnil : Text.from? m [] = none := by simp [Text.from?, hm]
    have hhead : m.isPrefixOf (c :: rest) = false := by
      have h : m.isPrefixOf (c :: rest) = m.isPrefixOf [] := isPrefixOf_append_cons (a := []) hc
      rw [h]
      cases m with
      | nil => exact absurd rfl hm
      | cons d m => rfl
    rw [List.nil_append, hnil]
    simp [Text.from?, hhead]
  | cons x a ih =>
    have h : m.isPrefixOf (x :: (a ++ c :: rest)) = m.isPrefixOf (x :: a) :=
      isPrefixOf_append_cons (a := x :: a) hc
    rw [List.cons_append]
    simp only [Text.from?, h]
    by_cases hp : m.isPrefixOf (x :: a) = true
    · simp [hp]
    · simp [hp, ih]

theorem from?_suffix {m cs cut : List Char} (h : Text.from? m cs = some cut) : cut <:+ cs := by
  induction cs with
  | nil =>
    unfold Text.from? at h
    split at h
    · cases h
      exact List.suffix_rfl
    · cases h
  | cons c rest ih =>
    unfold Text.from? at h
    split at h
    · cases h
      exact List.suffix_rfl
    · exact (ih h).trans (List.suffix_cons c rest)

/-! ## Segments -/

/-- A line with the label of the section that it belongs to, if it belongs to one. -/
structure Tagged where
  label : Option (List Char)
  line : Line
  deriving DecidableEq

/-- The section of a line before which `opened` is open; a `BEGIN` line belongs to its own. -/
def sectionOf (opened : Option (List Char)) (line : Line) : Option (List Char) :=
  if beginMark.isPrefixOf line.text then label? line.text else opened

/-- The section that is open after a line. -/
def openAfter (opened : Option (List Char)) (line : Line) : Option (List Char) :=
  if beginMark.isPrefixOf line.text then label? line.text
  else opened.filter fun label => !(endLine label).isPrefixOf line.text

/-- The kind of the block that ends with a line. -/
def closes? (opened : Option (List Char)) (line : Line) : Option SectionKind :=
  if beginMark.isPrefixOf line.text then none
  else match opened with
    | none => none
    | some label =>
      if (endLine label).isPrefixOf line.text then
        (SectionKind.ofLabel? (String.ofList label)).filter (· ≠ .echConfig)
      else none

/-- The lines since the block before, up to the end of a block. -/
structure Segment where
  kind : SectionKind
  lines : List Tagged
  deriving DecidableEq

/-- The segments of the remaining lines, when these were seen since the last block. -/
def segmentsFrom (opened : Option (List Char)) (seen : List Tagged) : List Line → List Segment
  | [] => []
  | line :: rest =>
    let here := seen ++ [⟨sectionOf opened line, line⟩]
    match closes? opened line with
    | some kind => ⟨kind, here⟩ :: segmentsFrom none [] rest
    | none => segmentsFrom (openAfter opened line) here rest

def segments (text : List Char) : List Segment := segmentsFrom none [] (lines text)

/-- The text of tagged lines. -/
def plain (ls : List Tagged) : List Char := flat (ls.map (·.line))

theorem plain_append (a b : List Tagged) : plain (a ++ b) = plain a ++ plain b := by
  simp [plain, flat]

/-- The block that a segment makes. -/
def Segment.block (s : Segment) : Block := ⟨s.kind, words (plain s.lines)⟩

/-- A reader that gets over a line agrees with the segments on where it stands. -/
theorem Reader.step_cases {r r' : Reader} {line : Line} {block : Option Block}
    (h : r.step line = .ok (r', block)) :
    (block = none ∧ closes? r.label line = none ∧ r'.label = openAfter r.label line ∧
        r'.consumed = r.consumed ++ (line.text ++ line.ending)) ∨
      ∃ kind, closes? r.label line = some kind ∧ r' = .start ∧
        block = some ⟨kind, words (r.consumed ++ (line.text ++ line.ending))⟩ := by
  unfold Reader.step at h
  cases hbegin : beginMark.isPrefixOf line.text with
  | true =>
    simp only [hbegin, if_true] at h
    cases hl : label? line.text with
    | none => simp [hl] at h
    | some label =>
      simp only [hl, Except.ok.injEq, Prod.mk.injEq] at h
      obtain ⟨rfl, rfl⟩ := h
      exact .inl ⟨rfl, by simp [closes?, hbegin], by simp [openAfter, hbegin, hl],
        List.append_assoc ..⟩
  | false =>
    simp only [hbegin, Bool.false_eq_true, if_false] at h
    cases hl : r.label with
    | none =>
      simp only [hl, Except.ok.injEq, Prod.mk.injEq] at h
      obtain ⟨rfl, rfl⟩ := h
      exact .inl ⟨rfl, by simp [closes?, hbegin], by simp [openAfter, hbegin],
        List.append_assoc ..⟩
    | some label =>
      simp only [hl] at h
      cases hend : (endLine label).isPrefixOf line.text with
      | false =>
        simp only [hend, Bool.false_eq_true, if_false, Except.ok.injEq, Prod.mk.injEq] at h
        obtain ⟨rfl, rfl⟩ := h
        exact .inl ⟨rfl, by simp [closes?, hbegin, hend],
          by simp [openAfter, hbegin, hend, Option.filter],
          List.append_assoc ..⟩
      | true =>
        simp only [hend, if_true] at h
        cases hk : SectionKind.ofLabel? (String.ofList label) with
        | none =>
          simp only [hk, Except.ok.injEq, Prod.mk.injEq] at h
          obtain ⟨rfl, rfl⟩ := h
          exact .inl ⟨rfl, by simp [closes?, hbegin, hend, hk],
            by simp [openAfter, hbegin, hend, Option.filter], List.append_assoc ..⟩
        | some kind =>
          simp only [hk] at h
          split at h
          · cases h
          · split at h
            · next hech =>
              simp only [Except.ok.injEq, Prod.mk.injEq] at h
              obtain ⟨rfl, rfl⟩ := h
              exact .inl ⟨rfl, by simp [closes?, hbegin, hend, hk, hech],
                by simp [openAfter, hbegin, hend, Option.filter], List.append_assoc ..⟩
            · next hech =>
              simp only [Except.ok.injEq, Prod.mk.injEq, List.append_assoc] at h
              obtain ⟨rfl, rfl⟩ := h
              exact .inr ⟨kind, by simp [closes?, hbegin, hend, hk, hech], rfl, rfl⟩

theorem consumed_start : Reader.start.consumed = plain [] := rfl

/-- A text that can be read makes the blocks of its segments. -/
theorem blocksFrom_eq {r : Reader} {seen : List Tagged} {ls : List Line} {bs : List Block}
    (hr : r.consumed = plain seen) (h : blocksFrom r ls = .ok bs) :
    bs = (segmentsFrom r.label seen ls).map Segment.block := by
  induction ls generalizing r seen bs with
  | nil =>
    unfold blocksFrom at h
    split at h
    · cases h
    · cases h
      rfl
  | cons line rest ih =>
    unfold blocksFrom at h
    cases hstep : r.step line with
    | error e => simp [hstep, bind, Except.bind] at h
    | ok res =>
      obtain ⟨r', block⟩ := res
      cases hmore : blocksFrom r' rest with
      | error e => simp [hstep, hmore, bind, Except.bind] at h
      | ok more =>
        have hbs : bs = block.toList ++ more := by
          simpa [hstep, hmore, bind, Except.bind, eq_comm] using h
        have hseen : r.consumed ++ (line.text ++ line.ending) =
            plain (seen ++ [⟨sectionOf r.label line, line⟩]) := by
          rw [plain_append, hr]
          simp [plain, flat]
        unfold segmentsFrom
        rcases Reader.step_cases hstep with
          ⟨rfl, hclose, hlabel, hconsumed⟩ | ⟨kind, hclose, rfl, rfl⟩
        · rw [hclose, hbs, ih (hconsumed.trans hseen) hmore, hlabel]
          rfl
        · rw [hclose, hbs, ih consumed_start hmore, hseen]
          rfl

theorem blocks_eq {text : List Char} {bs : List Block} (h : blocks text = .ok bs) :
    bs = (segments text).map Segment.block := blocksFrom_eq consumed_start h

/-! ## Sections begin where their lines stand -/

def Tagged.Begins (l : Tagged) : Prop := beginMark.isPrefixOf l.line.text = true

/-- Every section with a line in the list begins in it, at or before that line. -/
def Rooted (ls : List Tagged) : Prop :=
  ∀ part, part <+: ls → ∀ l ∈ part, ∀ label, l.label = some label →
    ∃ b ∈ part, b.Begins ∧ b.label = some label

theorem rooted_nil : Rooted [] := by
  intro part hpart l hl
  rw [List.prefix_nil.1 hpart] at hl
  cases hl

theorem Rooted.snoc {seen : List Tagged} {opened : Option (List Char)} (h : Rooted seen)
    (hopened : ∀ label, opened = some label → ∃ b ∈ seen, b.Begins ∧ b.label = some label)
    (line : Line) : Rooted (seen ++ [⟨sectionOf opened line, line⟩]) := by
  intro part hpart l hl label hlabel
  rcases List.prefix_concat_iff.1 hpart with rfl | hpart
  · rcases List.mem_append.1 hl with hl | hl
    · obtain ⟨b, hb, hrest⟩ := h seen List.prefix_rfl l hl label hlabel
      exact ⟨b, List.mem_append_left _ hb, hrest⟩
    · rw [List.mem_singleton.1 hl] at hlabel
      cases hbegin : beginMark.isPrefixOf line.text with
      | true => exact ⟨_, List.mem_append_right _ List.mem_cons_self, hbegin, hlabel⟩
      | false =>
        simp only [sectionOf, hbegin, Bool.false_eq_true, if_false] at hlabel
        obtain ⟨b, hb, hrest⟩ := hopened label hlabel
        exact ⟨b, List.mem_append_left _ hb, hrest⟩
  · exact h part hpart l hl label hlabel

theorem openAfter_rooted {seen : List Tagged} {opened : Option (List Char)}
    (hopened : ∀ label, opened = some label → ∃ b ∈ seen, b.Begins ∧ b.label = some label)
    {line : Line} {label : List Char} (h : openAfter opened line = some label) :
    ∃ b ∈ seen ++ [⟨sectionOf opened line, line⟩], b.Begins ∧ b.label = some label := by
  cases hbegin : beginMark.isPrefixOf line.text with
  | true =>
    refine ⟨_, List.mem_append_right _ List.mem_cons_self, hbegin, ?_⟩
    simpa [openAfter, sectionOf, hbegin] using h
  | false =>
    simp only [openAfter, hbegin, Bool.false_eq_true, if_false, Option.filter_eq_some_iff] at h
    obtain ⟨b, hb, hrest⟩ := hopened label h.1
    exact ⟨b, List.mem_append_left _ hb, hrest⟩

theorem Ordered.left {a b : List Line} (h : Ordered (a ++ b)) : Ordered a := by
  induction a with
  | nil => trivial
  | cons l a ih =>
    refine ⟨h.1.imp_right fun ⟨he, hnil⟩ => ⟨he, ?_⟩, ih h.2⟩
    exact (List.append_eq_nil_iff.1 hnil).1

theorem Ordered.right {a b : List Line} (h : Ordered (a ++ b)) : Ordered b := by
  induction a with
  | nil => exact h
  | cons l a ih => exact ih h.2

/-- What the segments of a text have in common. -/
structure Segment.Sound (s : Segment) : Prop where
  ordered : Ordered (s.lines.map (·.line))
  rooted : Rooted s.lines
  begins : ∃ b ∈ s.lines, b.Begins
  ends : ∃ init last label, s.lines = init ++ [last] ∧ last.label = some label ∧
    endLine label <+: last.line.text ∧ SectionKind.ofLabel? (String.ofList label) = some s.kind

/-- The last line of a block ends a section with the label of its kind. -/
theorem closes?_eq_some {opened : Option (List Char)} {line : Line} {kind : SectionKind}
    (h : closes? opened line = some kind) : ∃ label, opened = some label ∧
      sectionOf opened line = some label ∧ endLine label <+: line.text ∧
      SectionKind.ofLabel? (String.ofList label) = some kind := by
  unfold closes? at h
  split at h
  · cases h
  · next hbegin =>
    split at h
    · cases h
    · next label =>
      split at h
      · next hend =>
        exact ⟨label, rfl, by simp [sectionOf, hbegin], List.isPrefixOf_iff_prefix.1 hend,
          (Option.filter_eq_some_iff.1 h).1⟩
      · cases h

theorem segmentsFrom_sound {opened : Option (List Char)} {seen : List Tagged} {ls : List Line}
    (hroot : Rooted seen) (hord : Ordered (seen.map (·.line) ++ ls))
    (hopened : ∀ label, opened = some label → ∃ b ∈ seen, b.Begins ∧ b.label = some label) :
    ∀ s ∈ segmentsFrom opened seen ls, s.Sound := by
  induction ls generalizing opened seen with
  | nil => simp [segmentsFrom]
  | cons line rest ih =>
    have hord' : Ordered (List.map (·.line) (seen ++ [⟨sectionOf opened line, line⟩]) ++ rest) := by
      simpa using hord
    have hroot' := hroot.snoc hopened line
    intro s hs
    unfold segmentsFrom at hs
    cases hclose : closes? opened line with
    | none =>
      simp only [hclose] at hs
      exact ih hroot' hord' (fun label h => openAfter_rooted hopened h) s hs
    | some kind =>
      simp only [hclose, List.mem_cons] at hs
      rcases hs with rfl | hs
      · obtain ⟨label, hlabel, hsection, hend, hkind⟩ := closes?_eq_some hclose
        obtain ⟨b, hb, hbegins, -⟩ := hopened label hlabel
        exact ⟨hord'.left, hroot', ⟨b, List.mem_append_left _ hb, hbegins⟩,
          seen, _, label, rfl, hsection, hend, hkind⟩
      · exact ih rooted_nil (by simpa using hord'.right) (by simp) s hs

theorem segments_sound (text : List Char) : ∀ s ∈ segments text, s.Sound :=
  segmentsFrom_sound rooted_nil (lines_ordered text) (by simp)

/-! ## What a block shows -/

/-- What a block shows of its lines: what is left of the line with the first mark, if that does not
begin with it, and then whole lines. -/
def display : List Tagged → List Char × List Tagged
  | [] => ([], [])
  | l :: ls =>
    match Text.from? blockMark l.line.text with
    | some cut =>
      if cut = l.line.text then ([], l :: ls) else (cut ++ l.line.ending, ls)
    | none => display ls

/-- The lines that a block shows whole. -/
def shown (ls : List Tagged) : List Tagged := (display ls).2

theorem shown_suffix (ls : List Tagged) : shown ls <:+ ls := by
  induction ls with
  | nil => exact List.suffix_rfl
  | cons l ls ih =>
    unfold shown display
    split
    · split
      · exact List.suffix_rfl
      · exact List.suffix_cons l ls
    · exact ih.trans (List.suffix_cons l ls)

theorem from?_of_begins {l : Tagged} (h : l.Begins) :
    Text.from? blockMark l.line.text = some l.line.text :=
  Text.from?_of_prefix (by decide)
    ((by decide : blockMark <+: beginMark).trans (List.isPrefixOf_iff_prefix.1 h))

/-- A `BEGIN` line is shown whole. -/
theorem shown_of_begins {ls : List Tagged} {l : Tagged} (hl : l ∈ ls) (h : l.Begins) :
    l ∈ shown ls := by
  induction ls with
  | nil => cases hl
  | cons l' ls ih =>
    unfold shown display
    have hfrom := from?_of_begins h
    rcases List.mem_cons.1 hl with rfl | hl
    · simp [hfrom]
    · split
      · split
        · exact List.mem_cons_of_mem _ hl
        · exact hl
      · exact ih hl

/-- No section begins up to the line that is cut. -/
theorem display_cases (ls : List Tagged) : (display ls).1 = [] ∨
    ∃ pre l, pre ++ [l] <+: ls ∧ (∀ b ∈ pre ++ [l], ¬ b.Begins) ∧
      ∃ cut, cut <:+ l.line.text ∧ (display ls).1 = cut ++ l.line.ending := by
  induction ls with
  | nil => exact .inl rfl
  | cons l ls ih =>
    unfold display
    split
    · next cut hcut =>
      split
      · exact .inl rfl
      · next hne =>
        refine .inr ⟨[], l, by simp, ?_, cut, from?_suffix hcut, rfl⟩
        rintro b hb hbegins
        rw [List.nil_append, List.mem_singleton] at hb
        rw [hb] at hbegins
        exact hne (Option.some.inj (hcut.symm.trans (from?_of_begins hbegins)))
    · next hnone =>
      refine ih.imp_right ?_
      rintro ⟨pre, l', hpre, hbegins, hcut⟩
      refine ⟨l :: pre, l', List.cons_prefix_cons.2 ⟨rfl, hpre⟩, ?_, hcut⟩
      rintro b hb hb'
      rcases List.mem_cons.1 hb with rfl | hb
      · rw [from?_of_begins hb'] at hnone
        cases hnone
      · exact hbegins b hb hb'

/-- What is left of the line with the first mark comes from a line before all sections. -/
theorem display_cut {ls : List Tagged} (h : Rooted ls) : (display ls).1 = [] ∨
    ∃ l ∈ ls, l.label = none ∧ ∃ cut, cut <:+ l.line.text ∧
      (display ls).1 = cut ++ l.line.ending := by
  refine (display_cases ls).imp_right ?_
  rintro ⟨pre, l, hpre, hbegins, hcut⟩
  have hl : l ∈ pre ++ [l] := List.mem_append_right _ List.mem_cons_self
  refine ⟨l, hpre.subset hl, ?_, hcut⟩
  cases hlabel : l.label with
  | none => rfl
  | some label =>
    obtain ⟨b, hb, hb', -⟩ := h _ hpre l hl label hlabel
    exact absurd hb' (hbegins b hb)

/-- The text from the first mark on, line by line. -/
theorem from?_plain {ls : List Tagged} (h : Ordered (ls.map (·.line)))
    (hb : ∃ b ∈ ls, b.Begins) :
    Text.from? blockMark (plain ls) = some ((display ls).1 ++ plain (display ls).2) := by
  induction ls with
  | nil => simp at hb
  | cons l ls ih =>
    have hplain : plain (l :: ls) = l.line.text ++ (l.line.ending ++ plain ls) := by
      simp [plain, flat]
    -- The mark does not reach over the end of a line.
    have hfrom : Text.from? blockMark (plain (l :: ls)) =
        match Text.from? blockMark l.line.text with
        | some cut => some (cut ++ (l.line.ending ++ plain ls))
        | none => Text.from? blockMark (plain ls) := by
      rw [hplain]
      rcases h.1 with ⟨c, hc, hending⟩ | ⟨hending, hnil⟩
      · have hmark : c ∉ blockMark := by
          intro hm
          have hall : blockMark.all (fun c => !isLineEnd c) = true := by decide
          simpa [hc] using List.all_eq_true.1 hall c hm
        rw [hending]
        exact from?_append_cons (by decide) hmark _ _
      · obtain rfl := List.map_eq_nil_iff.1 hnil
        have hnone : Text.from? blockMark [] = none := by decide
        rw [hending]
        simp only [plain, flat, List.map_nil, List.flatMap_nil, List.append_nil, hnone]
        cases Text.from? blockMark l.line.text <;> rfl
    rw [hfrom]
    unfold display
    cases hcut : Text.from? blockMark l.line.text with
    | some cut =>
      dsimp only
      split
      · next heq =>
        rw [heq, ← hplain]
        rfl
      · simp
    | none =>
      refine ih h.2 ?_
      obtain ⟨b, hm, hbegins⟩ := hb
      rcases List.mem_cons.1 hm with rfl | hm
      · rw [from?_of_begins hbegins] at hcut
        cases hcut
      · exact ⟨b, hm, hbegins⟩

end VaultProjection.Pem
