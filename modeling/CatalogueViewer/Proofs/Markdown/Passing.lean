import CatalogueViewer.Proofs.Markdown.Opening

/-!
# Blocks other than fenced code

No block but a fenced one passes over a line that starts with a code fence.
-/

namespace CatalogueViewer.Markdown

open Text

/-- No code fence stands at the very start of a line. -/
def NoFence (s : List Char) : Prop := fenceStart? s = none

theorem startsFlush_of_fence {s : List Char} (fence : ¬NoFence s) : startsFlush s := by
  cases s with
  | nil => exact absurd rfl fence
  | cons c s =>
    by_contra plain
    have other : (c == '\x60' || c == '~') = false := by
      simp_all [startsFlush]
    exact fence (by simp [NoFence, fenceStart?, other])

theorem interrupts_of_fence {s : List Char} (fence : ¬NoFence s) (inside : Bool) :
    interrupts inside s := by
  have some : (fenceStart? s).isSome := Option.isSome_iff_ne_none.mpr fence
  simp [interrupts, some]

/-- Every carriage return belongs to a line end, and no backslash hides the line end before the next
code fence. -/
structure Plain (s : List Char) : Prop where
  paired : returnsPaired s
  unescaped : ∀ u, Passes NoFence s ('\\' :: '\n' :: u) → NoFence u

section

variable {outer : List Container} {s t u next : List Char}

theorem Plain.of_passes (plain : Plain s) (pass : Passes NoFence s t) : Plain t :=
  ⟨returnsPaired_suffix pass.suffix plain.paired,
    fun u escaped => plain.unescaped u (pass.trans escaped)⟩

theorem Plain.tail {c : Char} (plain : Plain (c :: s)) (other : c ≠ '\n') : Plain s :=
  plain.of_passes (.char other (.here s))

theorem Plain.passes_lineEnd (plain : Plain s) (ends : lineEnd? s = some next)
    (start : NoFence next) : Passes NoFence s next := by
  obtain ⟨rfl, -⟩ := lineEnd?_eq_some plain.paired ends
  exact passes_nextLine start

theorem leads_enterAll_use (outer : List Container) (s : List Char) :
    Leads s (Cursor.use 4 (enterAll outer s).2).2.rest :=
  (leads_enterAll outer s).trans (leads_use 4 _)

/-- A code fence stands in the way of every line that goes on with others. -/
theorem enterAll_of_fence (indented : Indented outer) (fence : ¬NoFence next) :
    ∃ inside, enterAll outer next = (inside, ⟨next, 0, 0⟩) ∧
      Cursor.use 4 ⟨next, 0, 0⟩ = (4, ⟨next, 0, 0⟩) :=
  ⟨_, enterAll_of_startsFlush (startsFlush_of_fence fence) indented,
    use_of_startsFlush (startsFlush_of_fence fence) 4⟩

namespace LinkDefinition

theorem passes_of_continuation? (indented : Indented outer)
    (goes : continuation? outer next = some t) : NoFence next ∧ Passes NoFence next t := by
  constructor
  · by_contra fence
    obtain ⟨inside, entered, used⟩ := enterAll_of_fence indented fence
    simp [continuation?, entered, used, interrupts_of_fence fence inside] at goes
  · have lead := leads_enterAll_use outer next
    unfold continuation? at goes
    dsimp only at goes
    split at goes
    · cases goes
      exact lead.passes
    · split at goes <;> cases goes
      exact lead.passes

theorem passes_lineEnd_continuation? (indented : Indented outer) (plain : Plain s)
    (ends : lineEnd? s = some next) (goes : continuation? outer next = some t) :
    Passes NoFence s t := by
  obtain ⟨start, pass⟩ := passes_of_continuation? indented goes
  exact (plain.passes_lineEnd ends start).trans pass

theorem passes_afterLabel? (indented : Indented outer) (plain : Plain s) {fuel : Nat}
    {visible broken : Bool} (found : afterLabel? outer fuel visible broken s = some t) :
    Passes NoFence s t := by
  induction fuel generalizing s visible broken with
  | zero => simp [afterLabel?] at found
  | succ fuel ih =>
    unfold afterLabel? at found
    split at found
    · cases found
    · cases found
    · cases found
    · split at found <;> cases found
      exact .char (by decide) (.here t)
    · cases found
    next c s same =>
      cases same
      -- A backslash takes the next character with it, be it the end of the line.
      have first : Passes NoFence ('\\' :: c :: s) s := by
        refine .char (by decide) ?_
        by_cases feed : c = '\n'
        · subst feed
          exact .feed (plain.unescaped s (.here _)) (.here s)
        · exact .char feed (.here s)
      exact first.trans (ih (plain.of_passes first) found)
    next c s _ _ _ _ same =>
      cases same
      split at found
      next blank =>
        split at found
        next inLine =>
          have other : c ≠ '\n' := fun feed => by simp [feed, lineEnd?] at inLine
          exact .char other (ih (plain.tail other) found)
        next next ends =>
          split at found
          · cases found
          · obtain ⟨u, goes, found⟩ := Option.bind_eq_some_iff.mp found
            have pass := passes_lineEnd_continuation? indented plain ends goes
            exact pass.trans (ih (plain.of_passes pass) found)
      next visible =>
        have other : c ≠ '\n' := fun feed => visible (by rw [feed]; rfl)
        exact .char other (ih (plain.tail other) found)

theorem passes_afterGap? (indented : Indented outer) (plain : Plain s) {broken : Bool}
    (found : afterGap? outer s = some (t, broken)) :
    Passes NoFence s t ∧ (broken → isBlankLine s) := by
  have spaced : Passes NoFence s (s.dropWhile isSpacing) := passes_dropWhile rfl s
  unfold afterGap? at found
  dsimp only at found
  split at found
  · cases found
    exact ⟨spaced, by simp⟩
  next next ends =>
    refine ⟨?_, fun _ => by simp [isBlankLine, blankLine?, ends]⟩
    split at found
    · cases found
    next u goes =>
      have pass := passes_lineEnd_continuation? indented (plain.of_passes spaced) ends goes
      have spaced' : Passes NoFence u (u.dropWhile isSpacing) := passes_dropWhile rfl u
      split at found <;> cases found
      exact spaced.trans (pass.trans spaced')

theorem isBlankLine_of_afterGap? (missing : afterGap? outer s = none) : isBlankLine s := by
  unfold afterGap? at missing
  dsimp only at missing
  split at missing
  · cases missing
  next next ends => simp [isBlankLine, blankLine?, ends]

theorem passes_afterAngled? {P : List Char → Prop} (found : afterAngled? s = some t) :
    Passes P s t := by
  fun_induction afterAngled? s with
  | case1 => cases found
  | case2 s =>
    cases found
    exact .char (by decide) (.here t)
  | case3 c s mark ih =>
    have other : c ≠ '\n' := fun feed => by simp [feed, isPunctuation] at mark
    exact .char (by decide) (.char other (ih found))
  | case4 => cases found
  | case5 c s mark inLine ih =>
    have other : c ≠ '\n' := fun feed => inLine (by simp [feed])
    exact .char (by decide) (.char other (ih found))
  | case6 => cases found
  | case7 c s _ _ inLine ih =>
    have other : c ≠ '\n' := fun feed => inLine (by simp [feed])
    exact .char other (ih found)

theorem passes_afterBare? {P : List Char → Prop} {nesting : Nat}
    (found : afterBare? nesting s = some t) : Passes P s t := by
  have other {c : Char} (visible : ¬c.toNat ≤ 0x20) : c ≠ '\n' :=
    fun feed => visible (by rw [feed]; decide)
  fun_induction afterBare? nesting s with
  | case1 =>
    cases found
    exact .here []
  | case3 nesting c s mark ih =>
    have other : c ≠ '\n' := fun feed => by simp [feed, isPunctuation] at mark
    exact .char (by decide) (.char other (ih found))
  | case4 c s =>
    cases found
    exact .char (by decide) (.here (c :: s))
  | case6 nesting c s mark visible ih => exact .char (by decide) (.char (other visible) (ih found))
  | case7 c s =>
    cases found
    exact .here (c :: s)
  | case10 nesting c s _ visible _ _ ih => exact .char (other visible) (ih found)
  | case11 c s =>
    cases found
    exact .here (c :: s)
  | case12 nesting c s _ visible _ _ _ ih => exact .char (other visible) (ih found)
  | case13 nesting c s _ visible _ _ ih => exact .char (other visible) (ih found)
  | _ => cases found

theorem passes_afterDestination? {P : List Char → Prop} (found : afterDestination? s = some t) :
    Passes P s t := by
  unfold afterDestination? at found
  split at found
  · exact .char (by decide) (passes_afterAngled? found)
  · split at found
    · cases found
    next rest bare =>
      split at found <;> cases found
      exact passes_afterBare? bare

theorem passes_afterTitleText? (indented : Indented outer) (plain : Plain s) {closing : Char}
    (mark : closing ≠ '\n') {fuel : Nat}
    (found : afterTitleText? outer closing fuel s = some t) : Passes NoFence s t := by
  induction fuel generalizing s with
  | zero => simp [afterTitleText?] at found
  | succ fuel ih =>
    unfold afterTitleText? at found
    split at found
    · cases found
    · cases found
    next fuel' c s same =>
      cases same
      split at found
      next last =>
        cases found
        exact .char (last ▸ mark) (.here t)
      next =>
        split at found
        next ret =>
          split at found
          · cases found
          next next ends =>
            obtain ⟨u, goes, found⟩ := Option.bind_eq_some_iff.mp found
            have pass := passes_lineEnd_continuation? indented plain ends goes
            exact pass.trans (ih (plain.of_passes pass) found)
        next inLine =>
          have other : c ≠ '\n' := fun feed => inLine (by simp [feed])
          have plain := plain.tail other
          split at found
          · cases found
          · split at found
            · split at found
              next d rest _ =>
                have skip : Passes NoFence (d :: rest) (if isPunctuation d then rest else d :: rest) := by
                  split
                  next escaped =>
                    have other : d ≠ '\n' := fun feed => by simp [feed, isPunctuation] at escaped
                    exact .char other (.here rest)
                  next => exact .here _
                exact .char other (skip.trans (ih (plain.of_passes skip) found))
              next => cases found
            · exact .char other (ih plain found)

theorem passes_afterTitle? (indented : Indented outer) (plain : Plain s)
    (found : afterTitle? outer s = some t) : Passes NoFence s t := by
  unfold afterTitle? at found
  split at found
  · exact .char (by decide) (passes_afterTitleText? indented (plain.tail (by decide)) (by decide) found)
  · exact .char (by decide) (passes_afterTitleText? indented (plain.tail (by decide)) (by decide) found)
  · exact .char (by decide) (passes_afterTitleText? indented (plain.tail (by decide)) (by decide) found)
  · cases found

/-- A definition ends its line. -/
theorem passes_after? (indented : Indented outer) (plain : Plain s)
    (found : after? outer s = some t) : Passes NoFence s t ∧ isBlankLine t := by
  unfold after? at found
  split at found
  next s =>
    have opening : Passes NoFence ('[' :: s) s := .char (by decide) (.here s)
    obtain ⟨u, label, found⟩ := Option.bind_eq_some_iff.mp found
    have labelled := opening.trans (passes_afterLabel? indented (plain.of_passes opening) label)
    split at found
    next v =>
      have colon : Passes NoFence (':' :: v) v := .char (by decide) (.here v)
      obtain ⟨⟨w, _⟩, gap, found⟩ := Option.bind_eq_some_iff.mp found
      obtain ⟨x, destination, found⟩ := Option.bind_eq_some_iff.mp found
      have marked := labelled.trans colon
      have spaced := marked.trans (passes_afterGap? indented (plain.of_passes marked) gap).1
      have reached := spaced.trans (passes_afterDestination? destination)
      have plain := plain.of_passes reached
      split at found
      next missing =>
        cases found
        exact ⟨reached, isBlankLine_of_afterGap? missing⟩
      next y broken gap =>
        obtain ⟨pass, line⟩ := passes_afterGap? indented plain gap
        split at found
        · cases found
        · split at found
          · split at found <;> cases found
            exact ⟨reached, line ‹_›⟩
          next z title =>
            split at found
            next ends =>
              cases found
              have titled := passes_afterTitle? indented (plain.of_passes pass) title
              exact ⟨reached.trans (pass.trans titled), ends⟩
            next =>
              split at found <;> cases found
              exact ⟨reached, line ‹_›⟩
    next => cases found
  next => cases found

end LinkDefinition

/-! ### Paragraphs -/

/-- A block goes from `s` up to the line at `t`. -/
def EndsAt (s t : List Char) : Prop := ∃ u, Passes NoFence s u ∧ t = nextLine u

theorem EndsAt.here (s : List Char) : EndsAt s (nextLine s) := ⟨s, .here s, rfl⟩

theorem EndsAt.of_passes (pass : Passes NoFence s t) (ends : EndsAt t u) : EndsAt s u := by
  obtain ⟨v, pass', same⟩ := ends
  exact ⟨v, pass.trans pass', same⟩

theorem endsAt_of_blankLine? (plain : Plain s) (ends : blankLine? s = some next) :
    EndsAt s next := by
  have spaced : Passes NoFence s (s.dropWhile isSpacing) := passes_dropWhile rfl s
  exact ⟨_, spaced, (lineEnd?_eq_some (plain.of_passes spaced).paired ends).1⟩

theorem afterUnderline?_of_fence (fence : ¬NoFence s) : afterUnderline? s = none := by
  obtain ⟨c, rest, rfl, rfl | rfl | rfl⟩ := exists_of_startsFlush (startsFlush_of_fence fence) <;> rfl

theorem endsAt_of_afterUnderline? (plain : Plain s) (line : afterUnderline? s = some next) :
    EndsAt s next := by
  unfold afterUnderline? at line
  split at line
  · cases line
  next mark rest =>
    split at line
    next underline =>
      have feed : ('\n' == mark) = false := by
        have either : mark = '=' ∨ mark = '-' := by simpa using underline
        rcases either with rfl | rfl <;> rfl
      have pass : Passes NoFence (mark :: rest) ((mark :: rest).dropWhile (· == mark)) :=
        passes_dropWhile feed _
      exact .of_passes pass (endsAt_of_blankLine? (plain.of_passes pass) line)
    next => cases line

theorem paragraphEnd?_of_fence (fence : ¬NoFence next) (inside : Bool) :
    paragraphEnd? inside next next = some next := by
  simp [paragraphEnd?, afterUnderline?_of_fence fence, interrupts_of_fence fence inside]

theorem paragraphEnd?_eq_some {inside : Bool} (ends : paragraphEnd? inside next s = some t) :
    t = next ∨ afterUnderline? s = some t := by
  cases underline : afterUnderline? s with
  | none => simp_all [paragraphEnd?]
  | some rest => cases inside <;> simp_all [paragraphEnd?]

theorem endsAt_afterParagraph (indented : Indented outer) (plain : Plain s) {fuel : Nat}
    (enough : s.length < fuel) : EndsAt s (afterParagraph outer fuel s) := by
  induction fuel generalizing s with
  | zero => cases enough
  | succ fuel ih =>
    have here := EndsAt.here s
    unfold afterParagraph
    rw [nextTextLine_eq plain.paired]
    -- A fence on the next line ends the paragraph, so any line it goes on with starts with none.
    by_cases start : NoFence (nextLine s)
    · have lead := leads_enterAll_use outer (nextLine s)
      have pass := (passes_nextLine start).trans lead.passes
      dsimp only
      split
      next rest ends =>
        split at ends
        · cases ends
        · obtain rfl | underline := paragraphEnd?_eq_some ends
          · exact here
          · exact .of_passes pass (endsAt_of_afterUnderline? (plain.of_passes pass) underline)
      next =>
        split
        · exact here
        next visible =>
          have skipped := leads_skipAll (Cursor.use 4 (enterAll outer (nextLine s)).2).2
          have some : (Cursor.use 4 (enterAll outer (nextLine s)).2).2.skipAll.rest ≠ [] :=
            fun none => visible (by rw [none]; rfl)
          have shorter := length_lt_of_suffix_nextLine (lead.trans skipped).suffix some
          have pass := pass.trans skipped.passes
          exact .of_passes pass (ih (plain.of_passes pass) (by omega))
    · obtain ⟨inside, entered, used⟩ := enterAll_of_fence indented start
      simpa [entered, used, paragraphEnd?_of_fence start] using here

theorem length_nextLine_lt_of_suffix (suffix : t <:+ s) (some : s ≠ []) :
    (nextLine t).length < s.length := by
  by_cases none : t = []
  · rw [none]
    exact List.length_pos_iff.mpr some
  · exact Nat.lt_of_lt_of_le (length_nextLine_lt none) suffix.length_le

theorem endsAt_afterText (indented : Indented outer) (plain : Plain s) {fuel : Nat}
    (enough : s.length < fuel) : EndsAt s (afterText outer fuel s) := by
  induction fuel generalizing s with
  | zero => cases enough
  | succ fuel ih =>
    unfold afterText
    split
    · exact endsAt_afterParagraph indented plain (Nat.lt_succ_self _)
    next t definition =>
      have some : s ≠ [] := by
        rintro rfl
        cases definition
      obtain ⟨pass, line⟩ := LinkDefinition.passes_after? indented plain definition
      obtain ⟨next, ends⟩ := Option.isSome_iff_exists.mp line
      obtain ⟨u, pass, rfl⟩ := (endsAt_of_blankLine? (plain.of_passes pass) ends).of_passes pass
      rw [ends]
      dsimp only
      by_cases start : NoFence (nextLine u)
      · have skipped := leads_skipAll (Cursor.use 4 (enterAll outer (nextLine u)).2).2
        have lead := (leads_enterAll_use outer (nextLine u)).trans skipped
        have shorter := length_nextLine_lt_of_suffix pass.suffix some
        have within := lead.suffix.length_le
        have pass' := (pass.trans (passes_nextLine start)).trans lead.passes
        split
        · exact ⟨u, pass, rfl⟩
        · exact .of_passes pass' (ih (plain.of_passes pass') (by omega))
      · obtain ⟨inside, entered, used⟩ := enterAll_of_fence indented start
        simpa [entered, used, interrupts_of_fence start inside] using ⟨u, pass, rfl⟩

/-! ### Raw HTML -/

theorem noFence_of_enterAll {c : Cursor} (indented : Indented outer) (held : holdsLines outer)
    (entered : enterAll outer s = (true, c)) : NoFence s := by
  by_contra fence
  have flush := not_startsFlush_of_enterAll indented held (by rw [entered])
  rw [startsFlush_of_fence fence] at flush
  cases flush

/-- A line that belongs to a quote or an item is passed to where its content goes on. -/
theorem passes_of_enterAll {c : Cursor} (indented : Indented outer) (held : holdsLines outer)
    (entered : enterAll outer (nextLine s) = (true, c)) :
    Passes NoFence s c.rest ∧ (c.rest ≠ [] → c.rest.length < s.length) := by
  have lead := leads_enterAll outer (nextLine s)
  rw [entered] at lead
  have start := noFence_of_enterAll indented held entered
  exact ⟨(passes_nextLine start).trans lead.passes, length_lt_of_suffix_nextLine lead.suffix⟩

theorem endsAt_afterHtml (indented : Indented outer) (held : holdsLines outer)
    {closing : List Char} {fuel : Nat} (enough : s.length < fuel) :
    EndsAt s (afterHtml outer closing fuel s) := by
  induction fuel generalizing s with
  | zero => cases enough
  | succ fuel ih =>
    unfold afterHtml
    dsimp only
    split
    · exact .here s
    next c entered =>
      obtain ⟨pass, shorter⟩ := passes_of_enterAll indented held entered
      split
      · exact .here s
      next goes =>
        have shorter := shorter fun none => goes (by simp [none])
        exact .of_passes pass (ih (by omega))

theorem endsAt_afterLooseHtml (indented : Indented outer) (held : holdsLines outer) {fuel : Nat}
    (enough : s.length < fuel) : EndsAt s (afterLooseHtml outer fuel s) := by
  induction fuel generalizing s with
  | zero => cases enough
  | succ fuel ih =>
    unfold afterLooseHtml
    dsimp only
    split
    · exact .here s
    next c entered =>
      obtain ⟨pass, shorter⟩ := passes_of_enterAll indented held entered
      split
      · exact .here s
      next visible =>
        have shorter := shorter fun none => visible (by rw [none]; rfl)
        exact .of_passes pass (ih (by omega))

/-! ### Indented code -/

theorem endsAt_indentedLines (indented : Indented outer) {fuel : Nat} {first : Bool} {c : Cursor}
    {line : IndentedLine} (last : (indentedLines outer fuel first c).getLast? = some line) :
    EndsAt c.rest line.next := by
  induction fuel generalizing first c with
  | zero => cases last
  | succ fuel ih =>
    unfold indentedLines at last
    dsimp only at last
    rw [List.getLast?_cons, Option.some.injEq] at last
    split at last
    · rw [← last]
      exact .here c.rest
    next d entered =>
      split at last
      · rw [← last]
        exact .here c.rest
      next goes =>
        generalize more : indentedLines outer fuel false (d.use 4).2 = lines at last
        cases final : lines.getLast? with
        | none =>
          rw [final] at last
          rw [← last]
          exact .here c.rest
        | some line' =>
          rw [final, Option.getD_some] at last
          subst last
          have start : NoFence (nextLine c.rest) := by
            by_contra fence
            obtain ⟨inside, raw, used⟩ := enterAll_of_fence indented fence
            rw [entered] at raw
            cases raw
            have visible := atLineEnd_of_startsFlush (startsFlush_of_fence fence)
            simp [used, visible] at goes
          have entering := leads_enterAll outer (nextLine c.rest)
          rw [entered] at entering
          have lead := entering.trans (leads_use 4 d)
          exact .of_passes ((passes_nextLine start).trans lead.passes) (ih (more ▸ final))

/-! ### Breaks -/

theorem endsAt_of_afterBreak? (plain : Plain s) (line : afterBreak? s = some next) :
    EndsAt s next := by
  unfold afterBreak? at line
  split at line
  · cases line
  next mark rest =>
    split at line
    next kind =>
      dsimp only at line
      split at line
      next =>
        have feed : ('\n' == mark || '\n' == ' ' || '\n' == '\t') = false := by
          have either : mark = '*' ∨ mark = '-' ∨ mark = '_' := by simpa [or_assoc] using kind
          rcases either with rfl | rfl | rfl <;> rfl
        have pass : Passes NoFence (mark :: rest)
            ((mark :: rest).dropWhile fun c => c == mark || c == ' ' || c == '\t') :=
          passes_dropWhile feed _
        rw [drop_length_takeWhile] at line
        obtain ⟨rfl, -⟩ := lineEnd?_eq_some (plain.of_passes pass).paired line
        exact .of_passes pass (.here _)
      next => cases line
    next => cases line

end

end CatalogueViewer.Markdown
