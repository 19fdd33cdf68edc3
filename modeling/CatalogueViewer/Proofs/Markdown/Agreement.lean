import CatalogueViewer.Proofs.Markdown.FencedCode

/-!
# Outline and blocks

The outline of a document and its division into blocks, held against each other.
-/

namespace CatalogueViewer.Markdown

open Text

section

variable {s t next : List Char}

/-! ### Lines outside of fenced code -/

/-- The scan sees a fence at a regular line only where the block structure does. -/
theorem fenceOf?_lineAt_of_leads (paired : returnsPaired s) (plain : opensPlainly (lineAt s))
    (lead : Leads s t) (calm : NoFence t) : fenceOf? (lineAt s) = none := by
  cases opens : fenceOf? (lineAt s) with
  | none => rfl
  | some opened =>
    have start := fenceStart?_of_fenceOf? paired plain opens
    have flush : startsFlush s := startsFlush_of_fence (by simp [NoFence, start])
    rw [NoFence, lead.eq_of_startsFlush flush, start] at calm
    cases calm

theorem fenceOf?_lineAt_of_noFence (paired : returnsPaired s)
    (regular : regularFrom none (places s)) (calm : NoFence s) : fenceOf? (lineAt s) = none := by
  by_cases text : s = []
  · rw [text]
    rfl
  · have plain : opensPlainly (lineAt s) := by
      rw [regularFrom_places text] at regular
      simp only [regularAt, Bool.and_eq_true] at regular
      exact regular.1.1.1.1
    exact fenceOf?_lineAt_of_leads paired plain (.refl s) calm

theorem noFence_of_blankLine? (line : blankLine? s = some next) : NoFence s := by
  by_contra fence
  have visible := isBlankLine_of_startsFlush (startsFlush_of_fence fence)
  simp [isBlankLine, line] at visible

/-- The scan over lines without a fence finds their headings. -/
theorem scan_skips {P : List Char → Prop} (calm : ∀ p, P p → NoFence p) (skip : Skips P s next)
    (paired : returnsPaired s) (plain : fenceOf? (lineAt s) = none)
    (regular : regularFrom none (places s)) :
    regularFrom none (places next) ∧
      ∃ taken, places s = taken ++ places next ∧
        (∀ p ∈ taken, p = s ∨ P p) ∧
        headings none (lines s) =
          (taken.filterMap fun p => headingOf? (lineAt p)) ++ headings none (lines next) := by
  induction skip with
  | last s =>
    by_cases text : s = []
    · subst text
      exact ⟨rfl, [], rfl, by simp, rfl⟩
    · rw [regularFrom_places text, fenceAfter, plain, Bool.and_eq_true] at regular
      exact ⟨regular.2, [s], places_eq text, by simp, headings_lines_plain text plain⟩
  | @more s next starts _ ih =>
    have paired' := returnsPaired_suffix (nextLine_suffix s) paired
    by_cases text : s = []
    · subst text
      obtain ⟨regular', taken, split, inside, scan⟩ := ih paired' plain regular
      refine ⟨regular', taken, split, fun p member => .inr ?_, scan⟩
      exact (inside p member).elim (fun same => same ▸ starts) id
    · rw [regularFrom_places text, fenceAfter, plain, Bool.and_eq_true] at regular
      have plain' := fenceOf?_lineAt_of_noFence paired' regular.2 (calm _ starts)
      obtain ⟨regular', taken, split, inside, scan⟩ := ih paired' plain' regular.2
      refine ⟨regular', s :: taken, ?_, ?_, ?_⟩
      · rw [places_eq text, split, List.cons_append]
      · intro p member
        rcases List.mem_cons.mp member with rfl | later
        · exact .inl rfl
        · exact .inr ((inside p later).elim (fun same => same ▸ starts) id)
      · rw [headings_lines_plain text plain, scan, ← List.append_assoc, ← List.filterMap_append]
        rfl

theorem noFence_of_fenceOf? (paired : returnsPaired s) (start : fenceOf? (lineAt s) = none) :
    NoFence s := by
  rw [NoFence]
  by_contra fence
  obtain ⟨opened, fence⟩ := Option.ne_none_iff_exists'.mp fence
  have opens := @fenceOf?_of_fenceStart? s opened 0 (Nat.zero_le 3) paired fence
  rw [List.replicate_zero, List.nil_append, start] at opens
  cases opens

theorem plain_of_regular (paired : returnsPaired s) (regular : regularFrom none (places s))
    (start : fenceOf? (lineAt s) = none) : Plain s := by
  refine ⟨paired, fun u escaped => ?_⟩
  obtain ⟨line, before, first, inLine, text⟩ := escaped.exists_line
  have regular' : regularFrom none (places line) := by
    rcases first with rfl | ⟨skip, -⟩
    · exact regular
    · exact (scan_skips (fun _ calm => calm) skip paired start regular).1
  have text' : line = (before ++ ['\\']) ++ '\n' :: u := by simpa using text
  have inLine' : '\n' ∉ before ++ ['\\'] := by simpa using inLine
  have last : lineAt line = before ++ ['\\'] := by
    rw [lineAt, text', lines_append_feed inLine', List.headD_cons, dropReturn, if_neg (by simp)]
  have next : nextLine line = u := by
    rw [text', nextLine_append inLine']
    simp [nextLine]
  have some : line ≠ [] := by simp [text]
  have plain : fenceOf? (lineAt u) = none := by
    rw [regularFrom_places some] at regular'
    simp_all [regularAt, endsPlainly]
  have suffix : u <:+ s :=
    ((List.suffix_cons _ u).trans (List.suffix_cons _ _)).trans escaped.suffix
  exact noFence_of_fenceOf? (returnsPaired_suffix suffix paired) plain

end

/-! ### One block -/

section

variable {o : Open} {d e : Cursor} {missing : Nat} {s : List Char}

theorem nextLine_dropWhile {drop : Char → Bool} (feed : drop '\n' = false) :
    nextLine (s.dropWhile drop) = nextLine s := by
  have inLine : '\n' ∉ s.takeWhile drop := by
    intro member
    simpa [feed] using List.mem_takeWhile_imp member
  rw [← nextLine_append inLine, List.takeWhile_append_dropWhile]

theorem readLeaf_of_fence {fence : FenceMark} (used : d.use 4 = (missing, e)) (little : missing ≠ 0)
    (start : fenceStart? e.rest = some fence) :
    ∃ info code, fencedLines o.outer (4 - missing) fence (d.rest.length + 1) (nextLine e.rest) = code ∧
      readLeaf o d = ⟨o, some ⟨e.rest, code.stop, code.code, some info⟩, code.next⟩ := by
  obtain ⟨proper, info, text, -⟩ := fenceStart?_eq_some start
  obtain ⟨more, first⟩ := run_eq_cons fence.mark proper.count_pos info
  have next : nextLine ((e.rest.drop fence.count).dropWhile isSpacing) = nextLine e.rest := by
    have feed : '\n' ∉ List.replicate fence.count fence.mark := by
      rcases proper.1 with mark | mark <;> simp [mark]
    rw [text, List.drop_left' (by simp), nextLine_append feed, nextLine_dropWhile rfl]
  rw [first] at text
  have noBreak : afterBreak? e.rest = none := by
    rw [text]
    rcases proper.1 with mark | mark <;> rw [mark] <;> rfl
  have noHeading : startsHeading e.rest = false := by
    rw [text]
    rcases proper.1 with mark | mark <;> rw [mark] <;> rfl
  have noBracket : ∀ tail, e.rest ≠ '<' :: tail := by
    intro tail same
    rw [text] at same
    rcases proper.1 with mark | mark <;> rw [mark] at same <;> cases same
  unfold readLeaf
  rw [used]
  dsimp only
  rw [if_neg little, noBreak, noHeading, start]
  split
  next rest _ html =>
    split at html
    next tail same => exact absurd same (noBracket tail)
    next => cases html
  next rest _ line => cases line
  next => exact ⟨_, _, by rw [next], rfl⟩

/-- A block that is no fenced code ends before the next code fence at the start of a line. -/
theorem readLeaf_of_no_fence (used : d.use 4 = (missing, e)) (indented : Indented o.outer)
    (plain : Plain d.rest) (other : missing ≠ 0 → fenceStart? e.rest = none)
    (raw : holdsLines o.outer = false → missing ≠ 0 → startsHtml e.rest = false) :
    ∃ span, (∀ c ∈ span, c.info = none) ∧ ∃ blank next, EndsAt d.rest next ∧
      readLeaf o d = ⟨{ o with afterBlank := blank }, span, next⟩ := by
  have lead := leads_use 4 d
  rw [used] at lead
  have plain' := plain.of_passes lead.passes
  have enough : e.rest.length < d.rest.length + 1 := Nat.lt_succ_of_le lead.suffix.length_le
  unfold readLeaf
  rw [used]
  dsimp only
  split
  · obtain ⟨line, last⟩ : ∃ line,
        (indentedLines o.outer (d.rest.length + 1) true e).getLast? = some line := by
      rw [indentedLines]
      exact ⟨_, List.getLast?_cons⟩
    refine ⟨_, by simp, _, _, ?_, rfl⟩
    rw [indentedCode, last]
    exact (endsAt_indentedLines indented last).of_passes lead.passes
  next some =>
    have here {next : List Char} (ends : EndsAt e.rest next) :
        ∃ span : Option CodeSpan, (∀ c ∈ span, c.info = none) ∧ ∃ blank next', EndsAt d.rest next' ∧
          (⟨o, none, next⟩ : Step) = ⟨{ o with afterBlank := blank }, span, next'⟩ :=
      ⟨none, by simp, o.afterBlank, next, ends.of_passes lead.passes, rfl⟩
    split
    next rest _ html =>
      have held : holdsLines o.outer := by
        by_contra lists
        have none := raw (by simpa using lists) some
        unfold startsHtml at none
        split at none <;> simp_all
      split at html
      next tail =>
        split at html
        · cases html
          exact here (endsAt_afterHtml indented held enough)
        · split at html <;> cases html
          exact here (endsAt_afterLooseHtml indented held enough)
      next => cases html
    next rest _ line => exact here (endsAt_of_afterBreak? plain' line)
    next =>
      split
      · rw [nextTextLine_eq plain'.paired]
        exact here (.here _)
      · rw [other some]
        exact here (endsAt_afterText indented plain' enough)

/-- A line stands outside of a block, unless the block is not fenced. -/
def CodeSpan.clear (c : CodeSpan) (place : List Char) : Bool :=
  c.info.isNone || decide (byteLength c.start + byteLength (lineAt place) ≤ byteLength place) ||
    decide (byteLength place ≤ byteLength c.stop)

/-- What a block takes from a document, and what the scan makes of the lines it takes. -/
structure Reads (s : List Char) (step : Step) : Prop where
  steady : step.state.Steady
  regular : regularFrom none (places step.rest)
  onward : step.rest <:+ nextLine s
  fenced : ∀ c ∈ step.span, c.info.isSome → c.start <:+ s ∧ c.stop <:+ s ∧ step.rest <:+ c.stop
  scan : ∃ taken, places s = taken ++ places step.rest ∧
    headings none (lines s) =
      ((taken.filter fun p => step.span.all (·.clear p)).filterMap fun p => headingOf? (lineAt p)) ++
        headings none (lines step.rest)

variable {next : List Char} {span : Option CodeSpan}

theorem Reads.of_endsAt (paired : returnsPaired s) (regular : regularFrom none (places s))
    (start : fenceOf? (lineAt s) = none) (steady : o.Steady) (other : ∀ c ∈ span, c.info = none)
    (ends : EndsAt s next) : Reads s ⟨o, span, next⟩ := by
  obtain ⟨u, pass, rfl⟩ := ends
  obtain ⟨regular', taken, split, -, scan⟩ :=
    scan_skips (fun _ calm => calm) pass.skips paired start regular
  have clear : ∀ p ∈ taken, span.all (·.clear p) := by
    cases span with
    | none => simp
    | some c => simp [CodeSpan.clear, other c rfl]
  refine ⟨steady, regular', pass.skips.suffix, ?_, taken, split, ?_⟩
  · intro c member fenced
    rw [other c member] at fenced
    cases fenced
  · dsimp only
    rw [List.filter_eq_self.mpr clear, scan]

theorem head_of_headingOf? {line : List Char} {heading : Nat × List Char}
    (found : headingOf? line = some heading) : line.head? = some '#' := by
  cases line with
  | nil => cases found
  | cons c rest =>
    by_contra other
    have sign : (c == '#') = false := by simpa using other
    simp [headingOf?, sign] at found

theorem headingOf?_of_head (other : s.head? ≠ some '#') : headingOf? (lineAt s) = none := by
  cases found : headingOf? (lineAt s) with
  | none => rfl
  | some heading => exact absurd (head?_of_lineAt (head_of_headingOf? found)) other

theorem headingOf?_of_notFlush (calm : NotFlush s) : headingOf? (lineAt s) = none := by
  refine headingOf?_of_head fun sign => ?_
  simp [NotFlush, startsFlush, sign] at calm

theorem noFence_of_notFlush (calm : NotFlush s) : NoFence s := by
  by_contra fence
  rw [NotFlush, startsFlush_of_fence fence] at calm
  cases calm

/-- Fenced code in a quote or an item: no line of it is a heading for the scan. -/
theorem Reads.of_held {fence : FenceMark} (paired : returnsPaired s)
    (regular : regularFrom none (places s)) (steady : o.Steady) (held : holdsLines o.outer)
    (calm : NotFlush s) (proper : fence.Proper) (lead : Leads s e.rest) {indent fuel : Nat}
    {code : CodeEnd} (read : fencedLines o.outer indent fence fuel (nextLine s) = code)
    {text : List Char} {info : Option (List Char)} :
    Reads s ⟨o, some ⟨e.rest, code.stop, text, info⟩, code.next⟩ := by
  have indented : Indented o.outer := fun n member =>
    steady.indented n (List.mem_reverse.mp member)
  have start := fenceOf?_lineAt_of_noFence paired regular (noFence_of_notFlush calm)
  obtain ⟨skip, next, stop⟩ := skips_fencedLines indented held paired proper indent fuel
  rw [read] at skip next stop
  obtain ⟨regular', taken, split, inside, scan⟩ :=
    scan_skips (fun _ => noFence_of_notFlush) skip paired start regular
  have plain : ∀ p ∈ taken, headingOf? (lineAt p) = none := fun p member =>
    headingOf?_of_notFlush ((inside p member).elim (fun same => same ▸ calm) id)
  refine ⟨steady, regular', next.trans stop, ?_, taken, split, ?_⟩
  · rintro c ⟨⟩ _
    exact ⟨lead.suffix, stop.trans (nextLine_suffix s), next⟩
  · rw [scan, List.filterMap_eq_nil_iff.mpr plain, List.filterMap_eq_nil_iff.mpr]
    intro p member
    exact plain p (List.mem_filter.mp member).1

/-- Fenced code in no quote and no item: the scan hides its lines. -/
theorem Reads.of_fence {fence : FenceMark} (paired : returnsPaired s)
    (regular : regularFrom none (places s)) (steady : o.Steady) (lists : holdsLines o.outer = false)
    (start : fenceStart? s = some fence) (opens : fenceOf? (lineAt s) = some fence) {fuel : Nat}
    (enough : s.length < fuel) {code : CodeEnd}
    (read : fencedLines o.outer 0 fence fuel (nextLine s) = code) {text info : List Char} :
    Reads s ⟨o, some ⟨s, code.stop, text, some info⟩, code.next⟩ := by
  obtain ⟨proper, after, marks, -⟩ := fenceStart?_eq_some start
  obtain ⟨more, first⟩ := run_eq_cons fence.mark proper.count_pos after
  rw [first] at marks
  have some : s ≠ [] := by simp [marks]
  have title : headingOf? (lineAt s) = none := by
    refine headingOf?_of_head ?_
    rcases proper.1 with mark | mark <;> simp [marks, mark]
  rw [regularFrom_places some, fenceAfter, opens, Bool.and_eq_true] at regular
  have shorter := length_nextLine_lt some
  have hides : Hides fence (nextLine s) code := read ▸ hides_fencedLines lists
    (returnsPaired_suffix (nextLine_suffix s) paired) proper regular.2 (by omega)
  obtain ⟨next, stop, regular', scan, hidden, split, inside⟩ := hides
  refine ⟨steady, regular', next.trans stop, ?_, s :: hidden, ?_, ?_⟩
  · rintro c ⟨⟩ _
    exact ⟨List.suffix_rfl, stop.trans (nextLine_suffix s), next⟩
  · rw [places_eq some, split, List.cons_append]
  · rw [headings_lines_open some opens, scan, List.filterMap_eq_nil_iff.mpr, List.nil_append]
    intro p member
    obtain ⟨member, clear⟩ := List.mem_filter.mp member
    rcases List.mem_cons.mp member with rfl | later
    · exact title
    · -- A later line lies between the start and the stop of the block.
      obtain ⟨suffix, longer⟩ := inside p later
      have below := byteLength_lt_of_suffix (suffix.trans (nextLine_suffix s))
        (Nat.lt_of_le_of_lt suffix.length_le shorter)
      have above := byteLength_lt_of_suffix
        (List.suffix_of_suffix_length_le stop suffix (Nat.le_of_lt longer)) longer
      simp only [CodeSpan.clear, Option.all_some, Option.isNone_some, Bool.false_or, Bool.or_eq_true,
        decide_eq_true_eq] at clear
      omega

/-- Less than four columns of white space before a block are spaces. -/
theorem exists_spaces_of_use (used : Cursor.use 4 ⟨s, 0, 0⟩ = (missing, e)) (little : missing ≠ 0) :
    ∃ indent ≤ 3, s = List.replicate indent ' ' ++ e.rest ∧ e.rest.head? ≠ some ' ' := by
  obtain ⟨indent, split, bound, first⟩ := Cursor.useRest_spaces (Nat.le_refl 4) used little
  exact ⟨indent, by omega, split, fun head => by cases first _ head⟩

theorem startsHtml_of_opensHtml (html : opensHtml s = false)
    (used : Cursor.use 4 ⟨s, 0, 0⟩ = (missing, e)) (little : missing ≠ 0) :
    startsHtml e.rest = false := by
  obtain ⟨indent, low, split, visible⟩ := exists_spaces_of_use used little
  rw [split, opensHtml, takeWhile_run indent visible, List.length_replicate,
    List.drop_left' (by simp)] at html
  simpa [low] using html

theorem reads_readBlock (steady : o.Steady) (paired : returnsPaired s) (text : s ≠ [])
    (regular : regularFrom none (places s)) : Reads s (readBlock o s) := by
  obtain ⟨⟨⟨⟨opensPlain, html⟩, filled⟩, -⟩, -⟩ : (((opensPlainly (lineAt s) = true ∧
      opensHtml s = false) ∧ fillsItems s = true) ∧ _) ∧ _ := by
    simpa [regularFrom_places text, regularAt] using regular
  rcases readBlock_cases steady filled with
    ⟨o', t, next, steady', lead, line, block⟩ | ⟨o', d, steady', lead, -, block, inside⟩
  · have start := fenceOf?_lineAt_of_leads paired opensPlain lead (noFence_of_blankLine? line)
    have plain := plain_of_regular paired regular start
    have ends := endsAt_of_blankLine? (plain.of_passes lead.passes) line
    rw [block]
    exact .of_endsAt paired regular start steady' (by simp) (ends.of_passes lead.passes)
  · have indented : Indented o'.outer := fun n member =>
      steady'.indented n (List.mem_reverse.mp member)
    rcases used : d.use 4 with ⟨missing, e⟩
    have lead' := lead.trans (leads_use 4 d)
    rw [used] at lead'
    rw [block]
    by_cases fenced : missing ≠ 0 ∧ ∃ fence, fenceStart? e.rest = some fence
    · obtain ⟨little, fence, starts⟩ := fenced
      obtain ⟨info, code, read, leaf⟩ := readLeaf_of_fence used little starts
      rw [← lead'.nextLine_eq] at read
      rw [leaf]
      obtain ⟨held, calm⟩ | ⟨lists, whole⟩ := inside
      · exact .of_held paired regular steady' held calm (fenceStart?_eq_some starts).1 lead' read
      · subst whole
        obtain ⟨indent, low, split, -⟩ := exists_spaces_of_use used little
        have opens : fenceOf? (lineAt s) = some fence := by
          rw [split] at paired ⊢
          exact fenceOf?_of_fenceStart? low paired starts
        have start := fenceStart?_of_fenceOf? paired opensPlain opens
        have flush : startsFlush s := startsFlush_of_fence (by simp [NoFence, start])
        rw [use_of_startsFlush flush] at used
        cases used
        exact .of_fence paired regular steady' lists start opens (Nat.lt_succ_self _) read
    · have other (little : missing ≠ 0) : fenceStart? e.rest = none :=
        Option.eq_none_iff_forall_ne_some.mpr fun fence starts => fenced ⟨little, fence, starts⟩
      have start : fenceOf? (lineAt s) = none := by
        cases flush : startsFlush s with
        | false => exact fenceOf?_lineAt_of_noFence paired regular (noFence_of_notFlush flush)
        | true =>
          obtain ⟨-, calm⟩ | ⟨-, whole⟩ := inside
          · rw [flush] at calm
            cases calm
          · rw [whole, use_of_startsFlush flush] at used
            cases used
            exact fenceOf?_lineAt_of_leads paired opensPlain (.refl s) (other (by decide))
      have raw (lists : holdsLines o'.outer = false) (little : missing ≠ 0) :
          startsHtml e.rest = false := by
        obtain ⟨held, -⟩ | ⟨-, whole⟩ := inside
        · rw [held] at lists
          cases lists
        · exact startsHtml_of_opensHtml html (whole ▸ used) little
      have plain := (plain_of_regular paired regular start).of_passes lead.passes
      obtain ⟨span, none, blank, next, ends, leaf⟩ :=
        readLeaf_of_no_fence used indented plain other raw
      rw [leaf]
      exact .of_endsAt paired regular start ⟨steady'.filled, steady'.indented⟩ none
        (ends.of_passes lead.passes)

end

/-! ### Whole documents -/

theorem byteLength_lineAt_add_nextLine {p : List Char} (paired : returnsPaired p) :
    byteLength (lineAt p) + byteLength (nextLine p) ≤ byteLength p := by
  obtain ⟨ending, split, -⟩ := exists_ending paired
  have inLine : '\n' ∉ lineAt p := by
    rw [lineAt_eq_takeWhile paired]
    intro member
    cases List.mem_takeWhile_imp member
  have next : nextLine p <:+ ending := by
    have same := nextLine_append inLine ending
    rw [← split] at same
    exact same ▸ nextLine_suffix ending
  have bytes : byteLength p = byteLength (lineAt p) + byteLength ending := by
    rw [← byteLength_append, ← split]
  have short := byteLength_le_of_suffix next
  omega

theorem CodeSpan.clear_of_start {c : CodeSpan} {p : List Char} (paired : returnsPaired p)
    (after : c.info.isSome → c.start <:+ nextLine p) : c.clear p := by
  cases fenced : c.info with
  | none => simp [clear, fenced]
  | some info =>
    have short := byteLength_le_of_suffix (after (by rw [fenced]; rfl))
    have bytes := byteLength_lineAt_add_nextLine paired
    have before : byteLength c.start + byteLength (lineAt p) ≤ byteLength p := by omega
    simp [clear, before]

theorem CodeSpan.clear_of_stop {c : CodeSpan} {p : List Char}
    (before : c.info.isSome → p <:+ c.stop) : c.clear p := by
  cases fenced : c.info with
  | none => simp [clear, fenced]
  | some info =>
    have short := byteLength_le_of_suffix (before (by rw [fenced]; rfl))
    simp [clear, short]

theorem all_clear_of_start {spans : List CodeSpan} {s t : List Char} {taken : List (List Char)}
    (paired : returnsPaired s) (split : places s = taken ++ places t)
    (ahead : ∀ c ∈ spans, c.info.isSome → c.start <:+ t) :
    ∀ p ∈ taken, spans.all (·.clear p) := by
  intro p member
  have inside : p <:+ s := suffix_of_mem_places (split ▸ List.mem_append_left _ member)
  refine List.all_eq_true.mpr fun c there => ?_
  refine CodeSpan.clear_of_start (returnsPaired_suffix inside paired) fun fenced => ?_
  exact (ahead c there fenced).trans (suffix_nextLine_of_places split member)

theorem all_clear_of_stop {span : Option CodeSpan} {t : List Char}
    (behind : ∀ c ∈ span, c.info.isSome → t <:+ c.stop) :
    ∀ p ∈ places t, span.all (·.clear p) := by
  intro p member
  cases span with
  | none => rfl
  | some c =>
    exact CodeSpan.clear_of_stop fun fenced =>
      (suffix_of_mem_places member).trans (behind c rfl fenced)

theorem headings_eq_filter {o : Open} {s : List Char} {fuel : Nat} (steady : o.Steady)
    (paired : returnsPaired s) (regular : regularFrom none (places s)) (enough : s.length < fuel) :
    (∀ c ∈ codeSpansFrom fuel o s, c.info.isSome → c.start <:+ s ∧ c.stop <:+ s) ∧
      headings none (lines s) =
        ((places s).filter fun p => (codeSpansFrom fuel o s).all (·.clear p)).filterMap fun p =>
          headingOf? (lineAt p) := by
  induction fuel generalizing o s with
  | zero => cases enough
  | succ fuel ih =>
    by_cases text : s = []
    · subst text
      simp [codeSpansFrom, places, placesFrom, lines, splitBreaks, linesOfPieces, headings]
    · have reads := reads_readBlock steady paired text regular
      rw [codeSpansFrom, if_neg (by simpa using text)]
      generalize readBlock o s = step at reads
      have onward : step.rest <:+ s := reads.onward.trans (nextLine_suffix s)
      have shorter := length_nextLine_lt text
      have within := reads.onward.length_le
      obtain ⟨later, rest⟩ := ih reads.steady (returnsPaired_suffix onward paired) reads.regular
        (by omega)
      obtain ⟨taken, split, scan⟩ := reads.scan
      constructor
      · intro c member fenced
        rcases List.mem_append.mp member with here | there
        · obtain ⟨start, stop, -⟩ := reads.fenced c (Option.mem_toList.mp here) fenced
          exact ⟨start, stop⟩
        · obtain ⟨start, stop⟩ := later c there fenced
          exact ⟨start.trans onward, stop.trans onward⟩
      · -- The lines the block takes lie before all later blocks, the lines after it behind it.
        have ahead := all_clear_of_start paired split fun c there fenced => (later c there fenced).1
        have behind := all_clear_of_stop fun c here fenced => (reads.fenced c here fenced).2.2
        have spans (p : List Char) : (step.span.toList ++ codeSpansFrom fuel step.state step.rest).all
            (·.clear p) = (step.span.all (·.clear p) &&
              (codeSpansFrom fuel step.state step.rest).all (·.clear p)) := by
          cases step.span <;> simp
        rw [scan, rest, split, List.filter_append, List.filterMap_append]
        congr 2
        · exact List.filter_congr fun p member => by rw [spans, ahead p member, Bool.and_true]
        · exact List.filter_congr fun p member => by rw [spans, behind p member, Bool.true_and]

/-! ### Agreement -/

/-- The fenced code blocks of a document. -/
def fencedBlocks (body : String) : List CodeBlock :=
  (blocks body).filterMap fun
    | .code block => if block.fenced then some block else none
    | .text _ => none

/-- The line at a place of a document of `size` bytes lies outside of a block. -/
def CodeBlock.misses (block : CodeBlock) (size : Nat) (place : List Char) : Bool :=
  let start := size - byteLength place
  decide (start + byteLength (lineAt place) ≤ block.start) || decide (block.stop ≤ start)

/-- The outline of a document is that of its lines outside of all fenced code. -/
def Agrees (maxLevel : Nat) (body : String) : Prop :=
  outline maxLevel body =
    let text := body.toList
    let outside := (places text).filter fun place =>
      (fencedBlocks body).all (·.misses (byteLength text) place)
    anchors ((outside.filterMap fun place => headingOf? (lineAt place)).filter fun h =>
      h.1 ≤ clampLevel maxLevel)

instance (maxLevel : Nat) (body : String) : Decidable (Agrees maxLevel body) :=
  inferInstanceAs (Decidable (_ = _))

/-- A document on which scan and block structure tell the same fences. -/
def isRegular (body : String) : Bool :=
  returnsPaired body.toList && regularFrom none (places body.toList)

/-- A no-break space after the marks closes a fence for the outline only. -/
theorem not_agrees_of_noBreakSpace : ¬Agrees 6 "```\n```\u00a0\n# shell comment\n```\n" := by
  decide

theorem fencedBlocks_blocksFrom (size : Nat) (rest : List Char) (spans : List CodeSpan) :
    ((blocksFrom size rest spans).filterMap fun
      | .code block => if block.fenced then some block else none
      | .text _ => none) =
    (spans.filter (·.info.isSome)).map (.ofSpan size) := by
  have gaps (start stop : List Char) : ((gap start stop).filterMap fun
      | .code block => if block.fenced then some block else none
      | .text _ => none) = [] := by
    unfold gap
    dsimp only
    split <;> rfl
  induction spans generalizing rest with
  | nil => exact gaps rest []
  | cons c spans ih =>
    rw [blocksFrom, List.filterMap_append, gaps, List.nil_append, List.filterMap_cons, ih]
    cases fenced : c.info.isSome <;> simp [CodeBlock.ofSpan, fenced]

theorem misses_ofSpan {c : CodeSpan} {s p : List Char} (start : c.start <:+ s) (stop : c.stop <:+ s)
    (place : p <:+ s) (fenced : c.info.isSome) :
    (CodeBlock.ofSpan (byteLength s) c).misses (byteLength s) p = c.clear p := by
  have a := byteLength_le_of_suffix start
  have b := byteLength_le_of_suffix stop
  have d := byteLength_le_of_suffix place
  have before : byteLength s - byteLength p + byteLength (lineAt p) ≤ byteLength s - byteLength c.start ↔
      byteLength c.start + byteLength (lineAt p) ≤ byteLength p := by omega
  have after : byteLength s - byteLength c.stop ≤ byteLength s - byteLength p ↔
      byteLength p ≤ byteLength c.stop := by omega
  have opens : c.info.isNone = false := by simpa using fenced
  simp only [CodeBlock.misses, CodeBlock.ofSpan, CodeSpan.clear, opens, before, after, Bool.false_or]

theorem agrees_of_regular {body : String} (regular : isRegular body) (maxLevel : Nat) :
    Agrees maxLevel body := by
  obtain ⟨paired, regular⟩ : returnsPaired body.toList ∧ regularFrom none (places body.toList) := by
    simpa [isRegular] using regular
  obtain ⟨inside, scan⟩ :=
    headings_eq_filter Open.Steady.start paired regular (Nat.lt_succ_self body.toList.length)
  have same : ∀ p ∈ places body.toList,
      ((codeSpans body.toList).all fun c => c.clear p) =
        (fencedBlocks body).all fun block => block.misses (byteLength body.toList) p := by
    intro p member
    rw [fencedBlocks, blocks, fencedBlocks_blocksFrom, List.all_map, List.all_filter]
    rw [Bool.eq_iff_iff, List.all_eq_true, List.all_eq_true]
    refine forall₂_congr fun c there => ?_
    cases fenced : c.info.isSome with
    | false =>
      have none : c.info = none := by simpa using fenced
      simp [CodeSpan.clear, none]
    | true =>
      obtain ⟨start, stop⟩ := inside c there fenced
      rw [Function.comp_apply, misses_ofSpan start stop (suffix_of_mem_places member) fenced]
      rfl
  rw [Agrees, outline, scan]
  dsimp only
  rw [← List.filter_congr same]
  rfl

/-- Fences in a list item and at the start of a line, a link definition and a thematic break. -/
def handbook : String :=
  "# Setup\n\n- Run:\n\n    ```sh\n    # step\n    ```\n\n[home]: /\n~~~ md\n# Inside\n~~~~\n* * *\n## Usage #\n"

theorem agrees_of_regular_handbook : isRegular handbook = true ∧ Agrees 3 handbook :=
  ⟨by decide, agrees_of_regular (by decide) 3⟩

end CatalogueViewer.Markdown
