import CatalogueViewer.Proofs.Markdown.Agreement

/-!
# Remainders

Whatever a reader of the block structure passes over, it goes on at a later place of the same text.
So the code blocks of a document follow each other and do not overlap.
-/

namespace CatalogueViewer.Markdown

open Text

section

variable {outer : List Container} {s t next : List Char}

/-! ### Lines -/

theorem suffix_of_lineEnd? (ends : lineEnd? s = some next) : next <:+ s := by
  unfold lineEnd? at ends
  split at ends <;> cases ends
  · exact List.suffix_rfl
  · exact ⟨['\r', '\n'], rfl⟩
  · exact ⟨['\n'], rfl⟩
  · exact ⟨['\r'], rfl⟩

theorem suffix_of_blankLine? (line : blankLine? s = some next) : next <:+ s :=
  (suffix_of_lineEnd? line).trans (List.dropWhile_suffix isSpacing)

theorem nextTextLine_suffix (s : List Char) : nextTextLine s <:+ s := by
  fun_induction nextTextLine s with
  | case1 => exact List.suffix_rfl
  | case2 s => exact ⟨['\r', '\n'], rfl⟩
  | case3 c s => exact List.suffix_cons c s
  | case4 c s _ _ ih => exact ih.trans (List.suffix_cons c s)

theorem suffix_of_afterUnderline? (line : afterUnderline? s = some next) : next <:+ s := by
  unfold afterUnderline? at line
  split at line
  · cases line
  · split at line
    · exact (suffix_of_blankLine? line).trans (List.dropWhile_suffix _)
    · cases line

theorem suffix_of_afterBreak? (line : afterBreak? s = some next) : next <:+ s := by
  unfold afterBreak? at line
  split at line
  · cases line
  · split at line
    · dsimp only at line
      split at line
      · exact (suffix_of_lineEnd? line).trans (List.drop_suffix _ _)
      · cases line
    · cases line

/-! ### Link definitions -/

namespace LinkDefinition

theorem suffix_of_continuation? (goes : continuation? outer s = some t) : t <:+ s := by
  have lead := (leads_enterAll_use outer s).suffix
  unfold continuation? at goes
  dsimp only at goes
  split at goes
  · cases goes
    exact lead
  · split at goes <;> cases goes
    exact lead

theorem suffix_of_afterLabel? {fuel : Nat} {visible broken : Bool}
    (found : afterLabel? outer fuel visible broken s = some t) : t <:+ s := by
  induction fuel generalizing s visible broken with
  | zero => simp [afterLabel?] at found
  | succ fuel ih =>
    unfold afterLabel? at found
    split at found
    · cases found
    · cases found
    · cases found
    · split at found <;> cases found
      exact List.suffix_cons _ t
    · cases found
    next c s same =>
      cases same
      exact (ih found).trans ⟨['\\', c], rfl⟩
    next c s _ _ _ _ same =>
      cases same
      have tail : s <:+ c :: s := List.suffix_cons c s
      split at found
      · split at found
        · exact (ih found).trans tail
        next next ends =>
          split at found
          · cases found
          · obtain ⟨u, goes, found⟩ := Option.bind_eq_some_iff.mp found
            have line := suffix_of_lineEnd? ends
            exact (ih found).trans ((suffix_of_continuation? goes).trans line)
      · exact (ih found).trans tail

theorem suffix_of_afterGap? {broken : Bool} (found : afterGap? outer s = some (t, broken)) :
    t <:+ s := by
  have spaced : s.dropWhile isSpacing <:+ s := List.dropWhile_suffix isSpacing
  unfold afterGap? at found
  dsimp only at found
  split at found
  · cases found
    exact spaced
  next next ends =>
    split at found
    · cases found
    next u goes =>
      split at found <;> cases found
      have line := (suffix_of_lineEnd? ends).trans spaced
      exact (List.dropWhile_suffix isSpacing).trans ((suffix_of_continuation? goes).trans line)

theorem suffix_of_afterTitleText? {closing : Char} {fuel : Nat}
    (found : afterTitleText? outer closing fuel s = some t) : t <:+ s := by
  induction fuel generalizing s with
  | zero => simp [afterTitleText?] at found
  | succ fuel ih =>
    unfold afterTitleText? at found
    split at found
    · cases found
    · cases found
    next fuel' c s same =>
      cases same
      have tail : s <:+ c :: s := List.suffix_cons c s
      split at found
      · cases found
        exact tail
      · split at found
        · split at found
          · cases found
          next next ends =>
            obtain ⟨u, goes, found⟩ := Option.bind_eq_some_iff.mp found
            have line := suffix_of_lineEnd? ends
            exact (ih found).trans ((suffix_of_continuation? goes).trans line)
        · split at found
          · cases found
          · split at found
            · split at found
              next d rest =>
                refine (ih found).trans (List.IsSuffix.trans ?_ tail)
                split
                · exact List.suffix_cons d rest
                · exact List.suffix_rfl
              next => cases found
            · exact (ih found).trans tail

theorem suffix_of_afterTitle? (found : afterTitle? outer s = some t) : t <:+ s := by
  unfold afterTitle? at found
  split at found
  · exact (suffix_of_afterTitleText? found).trans (List.suffix_cons _ _)
  · exact (suffix_of_afterTitleText? found).trans (List.suffix_cons _ _)
  · exact (suffix_of_afterTitleText? found).trans (List.suffix_cons _ _)
  · cases found

theorem suffix_of_after? (found : after? outer s = some t) : t <:+ s := by
  unfold after? at found
  split at found
  next s =>
    obtain ⟨u, label, found⟩ := Option.bind_eq_some_iff.mp found
    have labelled := (suffix_of_afterLabel? label).trans (List.suffix_cons '[' s)
    split at found
    next v =>
      obtain ⟨⟨w, _⟩, gap, found⟩ := Option.bind_eq_some_iff.mp found
      obtain ⟨x, destination, found⟩ := Option.bind_eq_some_iff.mp found
      have marked := (List.suffix_cons ':' v).trans labelled
      have spaced := (suffix_of_afterGap? gap).trans marked
      have pass : Passes (fun _ => True) w x := passes_afterDestination? destination
      have reached := pass.suffix.trans spaced
      split at found
      next => exact Option.some.inj found ▸ reached
      next y broken gap =>
        have onward := (suffix_of_afterGap? gap).trans reached
        split at found
        · cases found
        · split at found
          · split at found <;> cases found
            exact reached
          next z title =>
            split at found
            · cases found
              exact (suffix_of_afterTitle? title).trans onward
            · split at found <;> cases found
              exact reached
    next => cases found
  next => cases found

end LinkDefinition

/-! ### Other blocks -/

theorem afterParagraph_suffix (outer : List Container) (fuel : Nat) (s : List Char) :
    afterParagraph outer fuel s <:+ s := by
  induction fuel generalizing s with
  | zero => exact List.suffix_rfl
  | succ fuel ih =>
    have line := nextTextLine_suffix s
    have lead := (leads_enterAll_use outer (nextTextLine s)).suffix.trans line
    unfold afterParagraph
    dsimp only
    split
    next rest ends =>
      split at ends
      · cases ends
      · obtain rfl | underline := paragraphEnd?_eq_some ends
        · exact line
        · exact (suffix_of_afterUnderline? underline).trans lead
    next =>
      split
      · exact line
      · exact (ih _).trans ((leads_skipAll _).suffix.trans lead)

theorem afterText_suffix (outer : List Container) (fuel : Nat) (s : List Char) :
    afterText outer fuel s <:+ s := by
  induction fuel generalizing s with
  | zero => exact List.suffix_rfl
  | succ fuel ih =>
    unfold afterText
    split
    · exact afterParagraph_suffix outer (s.length + 1) s
    next t definition =>
      have defined := LinkDefinition.suffix_of_after? definition
      split
      · exact defined
      next next line =>
        have line := (suffix_of_blankLine? line).trans defined
        have lead := (leads_enterAll_use outer next).suffix.trans line
        dsimp only
        split
        · exact line
        · exact (ih _).trans ((leads_skipAll _).suffix.trans lead)

theorem afterHtml_suffix (outer : List Container) (closing : List Char) (fuel : Nat) (s : List Char) :
    afterHtml outer closing fuel s <:+ s := by
  induction fuel generalizing s with
  | zero => exact List.suffix_rfl
  | succ fuel ih =>
    have line := nextLine_suffix s
    have lead := (leads_enterAll outer (nextLine s)).suffix.trans line
    unfold afterHtml
    dsimp only
    split
    · exact line
    next c entered =>
      rw [entered] at lead
      split
      · exact line
      · exact (ih c.rest).trans lead

theorem afterLooseHtml_suffix (outer : List Container) (fuel : Nat) (s : List Char) :
    afterLooseHtml outer fuel s <:+ s := by
  induction fuel generalizing s with
  | zero => exact List.suffix_rfl
  | succ fuel ih =>
    have line := nextLine_suffix s
    have lead := (leads_enterAll outer (nextLine s)).suffix.trans line
    unfold afterLooseHtml
    dsimp only
    split
    · exact line
    next c entered =>
      rw [entered] at lead
      split
      · exact line
      · exact (ih c.rest).trans lead

/-! ### Code -/

theorem suffix_of_afterClosingFence? {fence : FenceMark}
    (found : afterClosingFence? fence s = some t) : t <:+ s := by
  unfold afterClosingFence? at found
  split at found
  · cases found
    exact List.nil_suffix
  · dsimp only at found
    split at found
    · cases found
    · split at found <;> cases found
      exact (List.dropWhile_suffix _).trans (List.drop_suffix _ s)

theorem fencedLines_suffix (outer : List Container) (indent : Nat) (fence : FenceMark) (fuel : Nat)
    (s : List Char) :
    (fencedLines outer indent fence fuel s).next <:+ (fencedLines outer indent fence fuel s).stop ∧
      (fencedLines outer indent fence fuel s).stop <:+ s := by
  induction fuel generalizing s with
  | zero => exact ⟨List.suffix_rfl, List.suffix_rfl⟩
  | succ fuel ih =>
    have lead := (leads_enterAll outer s).suffix
    unfold fencedLines
    split
    · exact ⟨List.suffix_rfl, List.suffix_rfl⟩
    next c entered =>
      rw [entered] at lead
      have skipped := (leads_use indent c).suffix.trans lead
      dsimp only
      split
      next stop closing =>
        have onward : (blankLine? stop).getD stop <:+ stop := by
          cases line : blankLine? stop with
          | none => exact List.suffix_rfl
          | some next => exact suffix_of_blankLine? line
        split at closing
        · cases closing
        next missing d _ used =>
          have reached := (leads_use (4 - indent) (c.skip indent)).suffix
          rw [used] at reached
          exact ⟨onward, (suffix_of_afterClosingFence? closing).trans (reached.trans skipped)⟩
      next =>
        obtain ⟨next, stop⟩ := ih (nextLine (c.skip indent).rest)
        exact ⟨next, stop.trans ((nextLine_suffix _).trans skipped)⟩

theorem indentedLines_suffix (outer : List Container) (fuel : Nat) (first : Bool) (c : Cursor) :
    (∀ line ∈ indentedLines outer fuel first c, line.next <:+ nextLine c.rest) ∧
      (indentedLines outer fuel first c).Pairwise fun line later => later.next <:+ line.next := by
  induction fuel generalizing first c with
  | zero => simp [indentedLines]
  | succ fuel ih =>
    have lead := (leads_enterAll outer (nextLine c.rest)).suffix
    unfold indentedLines
    dsimp only
    split
    · simp
    next d entered =>
      rw [entered] at lead
      split
      · simp
      · obtain ⟨below, falling⟩ := ih false (d.use 4).2
        have reached : nextLine (d.use 4).2.rest <:+ nextLine c.rest :=
          (nextLine_suffix _).trans ((leads_use 4 d).suffix.trans lead)
        have below' : ∀ line ∈ indentedLines outer fuel false (d.use 4).2,
            line.next <:+ nextLine c.rest :=
          fun line member => (below line member).trans reached
        exact ⟨List.forall_mem_cons.mpr ⟨List.suffix_rfl, below'⟩,
          List.pairwise_cons.mpr ⟨below', falling⟩⟩

/-- An indented block stops after its first line at the earliest. -/
theorem indentedCode_suffix (start : List Char) {first : IndentedLine} {more : List IndentedLine}
    (visible : first.blank = false) (below : ∀ line ∈ first :: more, line.next <:+ t)
    (falling : (first :: more).Pairwise fun line later => later.next <:+ line.next) :
    (indentedCode start (first :: more)).stop <:+ t ∧
      (indentedCode start (first :: more)).next <:+ (indentedCode start (first :: more)).stop := by
  have kept : ((first :: more).reverse.dropWhile IndentedLine.blank).reverse <+: first :: more := by
    rw [← List.reverse_suffix, List.reverse_reverse]
    exact List.dropWhile_suffix _
  obtain ⟨dropped, split⟩ := kept
  have some : ((first :: more).reverse.dropWhile IndentedLine.blank).reverse ≠ [] := by
    intro none
    have blank := List.dropWhile_eq_nil_iff.mp (List.reverse_eq_nil_iff.mp none) first (by simp)
    rw [visible] at blank
    cases blank
  unfold indentedCode
  dsimp only
  generalize ((first :: more).reverse.dropWhile IndentedLine.blank).reverse = kept at split some
  rw [← split] at below falling ⊢
  obtain ⟨front, last, rfl⟩ := List.eq_nil_or_concat kept |>.resolve_left some
  have stop := below last (by simp)
  rw [List.getLast?_append]
  cases final : dropped.getLast? with
  | none => simpa using stop
  | some line =>
    have order := (List.pairwise_append.mp falling).2.2 last (by simp) line
      (List.mem_of_getLast? final)
    simpa using ⟨stop, order⟩

/-! ### One block -/

/-- A block takes a part of the text, and its code, if it is code, stands in what it takes. -/
structure Takes (s : List Char) (step : Step) : Prop where
  rest : step.rest <:+ s
  code : ∀ c ∈ step.span, c.start ≠ [] ∧ c.start <:+ s ∧ c.stop <:+ nextLine c.start ∧
    step.rest <:+ c.stop

theorem Takes.of_suffix {step : Step} (takes : Takes t step) (suffix : t <:+ s) : Takes s step := by
  refine ⟨takes.rest.trans suffix, fun c member => ?_⟩
  obtain ⟨text, start, stop, rest⟩ := takes.code c member
  exact ⟨text, start.trans suffix, stop, rest⟩

theorem Takes.of_rest {o : Open} (suffix : next <:+ s) : Takes s ⟨o, none, next⟩ :=
  ⟨suffix, by simp⟩

theorem Takes.of_code {o : Open} {c : CodeSpan} (text : c.start ≠ [])
    (stop : c.stop <:+ nextLine c.start) (rest : next <:+ c.stop) :
    Takes c.start ⟨o, some c, next⟩ := by
  refine ⟨rest.trans (stop.trans (nextLine_suffix c.start)), ?_⟩
  rintro _ ⟨⟩
  exact ⟨text, List.suffix_rfl, stop, rest⟩

theorem ne_nil_of_not_isBlankLine (visible : isBlankLine s = false) : s ≠ [] := by
  rintro rfl
  cases visible

theorem takes_readLeaf (o : Open) {c : Cursor} (visible : isBlankLine c.rest = false) :
    Takes c.rest (readLeaf o c) := by
  rcases used : c.use 4 with ⟨missing, d⟩
  have lead := (leads_use 4 c).suffix
  have visible' := isBlankLine_use 4 c
  rw [used] at lead visible'
  rw [visible] at visible'
  have text : d.rest ≠ [] := ne_nil_of_not_isBlankLine visible'
  by_cases fenced : missing ≠ 0 ∧ ∃ fence, fenceStart? d.rest = some fence
  · obtain ⟨little, fence, starts⟩ := fenced
    obtain ⟨info, code, rfl, leaf⟩ := readLeaf_of_fence (o := o) used little starts
    obtain ⟨next, stop⟩ := fencedLines_suffix o.outer (4 - missing) fence (c.rest.length + 1)
      (nextLine d.rest)
    rw [leaf]
    exact .of_suffix (.of_code text stop next) lead
  · have other (little : missing ≠ 0) : fenceStart? d.rest = none :=
      Option.eq_none_iff_forall_ne_some.mpr fun fence starts => fenced ⟨little, fence, starts⟩
    unfold readLeaf
    rw [used]
    dsimp only
    split
    · obtain ⟨below, falling⟩ := indentedLines_suffix o.outer (c.rest.length + 1) true d
      rw [indentedLines] at below falling ⊢
      obtain ⟨stop, next⟩ := indentedCode_suffix d.rest rfl below falling
      exact .of_suffix (.of_code text stop next) lead
    next little =>
      refine .of_suffix ?_ lead
      split
      next rest _ html =>
        split at html
        · split at html
          · cases html
            exact .of_rest (afterHtml_suffix ..)
          · split at html <;> cases html
            exact .of_rest (afterLooseHtml_suffix ..)
        · cases html
      next rest _ line => exact .of_rest (suffix_of_afterBreak? line)
      next =>
        split
        · exact .of_rest (nextTextLine_suffix _)
        · rw [other little]
          exact .of_rest (afterText_suffix ..)

theorem suffix_of_itemStart? {outerIndent indent : Nat} {mark : Char} {c d : Cursor}
    (found : itemStart? outerIndent c = some (mark, indent, d)) : d.rest <:+ c.rest := by
  unfold itemStart? at found
  split at found
  · cases found
  next m _ =>
    split at found
    · cases found
    · have after := (leads_use 1 ⟨c.rest.drop m.width, c.column + m.width, c.spare⟩).suffix.trans
        (List.drop_suffix m.width c.rest)
      dsimp only at found
      split at found
      · cases found
      next content stands =>
        have content' : content.rest <:+ c.rest := by
          split at stands
          next used =>
            rw [used] at after
            exact Option.some.inj stands ▸ after
          next used =>
            rw [used] at after
            split at stands <;> cases stands
            exact after
        split at found
        · cases found
          exact content'
        · have lead := (leads_use 4 content).suffix.trans content'
          split at found
          · cases found
            exact content'
          next used =>
            rw [used] at lead
            cases found
            exact lead

/-- Opening containers ends at a later place, in front of a block or after an empty item. -/
theorem openContainers_suffix (fuel : Nat) (o : Open) (c : Cursor) :
    Sum.elim Cursor.rest id (openContainers fuel o c).2 <:+ c.rest := by
  induction fuel generalizing o c with
  | zero => exact List.suffix_rfl
  | succ fuel ih =>
    have lead := (leads_use 4 c).suffix
    rw [openContainers]
    split
    · exact List.suffix_rfl
    next missing d _ used =>
      rw [used] at lead
      split
      next mark indent e item =>
        have content := (suffix_of_itemStart? item).trans lead
        dsimp only
        split
        next next line => exact (suffix_of_blankLine? line).trans content
        next => exact (ih _ e).trans content
      next =>
        split
        next e quote => exact (ih _ e).trans ((leads_of_afterQuoteMark? quote).suffix.trans lead)
        next => exact List.suffix_rfl

theorem takes_readBlock (o : Open) (s : List Char) : Takes s (readBlock o s) := by
  have lead := (leads_matching ⟨s, 0, 0⟩ o.outer).suffix
  unfold readBlock
  dsimp only
  generalize o.popMany (o.containers.length - (matching ⟨s, 0, 0⟩ o.outer).1) = popped
  have opened := openContainers_suffix (s.length + 1) popped (matching ⟨s, 0, 0⟩ o.outer).2
  split
  next o' next same =>
    rw [same] at opened
    exact .of_rest (opened.trans lead)
  next o' d same =>
    rw [same] at opened
    have reached : d.rest <:+ s := opened.trans lead
    split
    next next line => exact .of_rest ((suffix_of_blankLine? line).trans reached)
    next visible =>
      exact .of_suffix (takes_readLeaf _ (by simp [isBlankLine, visible])) reached

/-! ### All blocks -/

/-- Every code block stands behind the one before it. -/
def InOrder (s : List Char) : List CodeSpan → Prop
  | [] => True
  | c :: spans =>
    c.start <:+ s ∧ c.stop <:+ c.start ∧ c.stop.length < c.start.length ∧ InOrder c.stop spans

theorem InOrder.of_suffix {spans : List CodeSpan} (order : InOrder t spans) (suffix : t <:+ s) :
    InOrder s spans := by
  cases spans with
  | nil => trivial
  | cons c spans => exact ⟨order.1.trans suffix, order.2⟩

theorem inOrder_codeSpansFrom (fuel : Nat) (o : Open) (s : List Char) :
    InOrder s (codeSpansFrom fuel o s) := by
  induction fuel generalizing o s with
  | zero => trivial
  | succ fuel ih =>
    rw [codeSpansFrom]
    split
    · trivial
    · have takes := takes_readBlock o s
      have later := ih (readBlock o s).state (readBlock o s).rest
      dsimp only
      cases found : (readBlock o s).span with
      | none => exact later.of_suffix takes.rest
      | some c =>
        obtain ⟨text, start, stop, rest⟩ := takes.code c found
        exact ⟨start, stop.trans (nextLine_suffix c.start),
          Nat.lt_of_le_of_lt stop.length_le (length_nextLine_lt text), later.of_suffix rest⟩

end

end CatalogueViewer.Markdown
