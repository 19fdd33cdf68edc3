import CatalogueViewer.Proofs.Markdown.Remainders

/-!
# Splitting a document

The blocks of a document are all of it: the code blocks stand in order and apart, and what lies
between them is shown as it is, without the line ends around it.
-/

namespace CatalogueViewer.Markdown

open Text

/-! ### Places by bytes -/

/-- The characters whose byte offsets have a property; the text starts at `offset`. -/
def pick (has : Nat → Bool) (offset : Nat) : List Char → List Char
  | [] => []
  | c :: s =>
    if has offset then c :: pick has (offset + c.utf8Size) s else pick has (offset + c.utf8Size) s

/-- The text from one byte offset up to another. -/
def slice (text : List Char) (start stop : Nat) : List Char :=
  pick (fun i => start ≤ i && i < stop) 0 text

/-- No character of the text goes across the byte offset. -/
def IsBoundary (text : List Char) (i : Nat) : Prop :=
  ∃ front back, text = front ++ back ∧ i = byteLength front

def CodeBlock.covers (b : CodeBlock) (i : Nat) : Bool := b.start ≤ i && i < b.stop

/-! ### Blocks that make up a text -/

def Block.code? : Block → Option CodeBlock
  | .code b => some b
  | .text _ => none

def Block.shown : Block → List Char
  | .code _ => []
  | .text source => source.toList

def codeOf (bs : List Block) : List CodeBlock := bs.filterMap Block.code?

def textOf (bs : List Block) : List Char := bs.flatMap Block.shown

/-- The text without the line ends around it. -/
def stripReturns (s : List Char) : List Char := dropWhileEnd isReturn (s.dropWhile isReturn)

/-- A text outside of code is one block, unless it is blank. -/
def textBlocks (between : List Char) : List Block :=
  if isBlankText between then [] else [.text (String.ofList (stripReturns between))]

/-- Code blocks with the text around them, from a byte offset on. -/
def weave (text : List Char) (offset : Nat) : List CodeBlock → List Block
  | [] => textBlocks (slice text offset (byteLength text))
  | b :: more => textBlocks (slice text offset b.start) ++ .code b :: weave text b.stop more

/-- The blocks make up the text. -/
structure Divides (text : List Char) (bs : List Block) : Prop where
  within : ∀ b ∈ codeOf bs, b.start < b.stop ∧ b.stop ≤ byteLength text
  aligned : ∀ b ∈ codeOf bs, IsBoundary text b.start ∧ IsBoundary text b.stop
  ordered : (codeOf bs).Pairwise fun b later => b.stop ≤ later.start
  between : bs = weave text 0 (codeOf bs)
  kept : (textOf bs).filter (!isBlank ·) =
    (pick (fun i => (codeOf bs).all (!·.covers i)) 0 text).filter (!isBlank ·)

/-- Blocks laid over a text that starts at a byte offset. -/
inductive Laid : Nat → List Char → List Block → Prop
  | last (offset : Nat) (between : List Char) : Laid offset between (textBlocks between)
  | code {offset : Nat} {between inside rest : List Char} {b : CodeBlock} {more : List Block} :
      b.start = offset + byteLength between → b.stop = b.start + byteLength inside → inside ≠ [] →
      Laid b.stop rest more →
      Laid offset (between ++ (inside ++ rest)) (textBlocks between ++ .code b :: more)

section

variable {has other : Nat → Bool} {offset : Nat} {s t between : List Char} {b : CodeBlock}
  {bs more : List Block}

/-! ### Picking characters -/

theorem pick_append (has : Nat → Bool) (offset : Nat) (s t : List Char) :
    pick has offset (s ++ t) = pick has offset s ++ pick has (offset + byteLength s) t := by
  induction s generalizing offset with
  | nil => rfl
  | cons c s ih =>
    have next : offset + c.utf8Size + byteLength s = offset + byteLength (c :: s) := by
      rw [byteLength_cons, Nat.add_assoc]
    rw [List.cons_append, pick, pick, ih, next]
    split <;> rfl

theorem pick_congr (same : ∀ i, offset ≤ i → i < offset + byteLength s → has i = other i) :
    pick has offset s = pick other offset s := by
  induction s generalizing offset with
  | nil => rfl
  | cons c s ih =>
    have size := c.utf8Size_pos
    rw [byteLength_cons] at same
    have rest : pick has (offset + c.utf8Size) s = pick other (offset + c.utf8Size) s :=
      ih fun i low high => same i (by omega) (by omega)
    rw [pick, pick, rest, same offset (Nat.le_refl offset) (by omega)]

theorem pick_true (offset : Nat) (s : List Char) : pick (fun _ => true) offset s = s := by
  induction s generalizing offset with
  | nil => rfl
  | cons c s ih => rw [pick, ih, if_pos rfl]

theorem pick_false (offset : Nat) (s : List Char) : pick (fun _ => false) offset s = [] := by
  induction s generalizing offset with
  | nil => rfl
  | cons c s ih => rw [pick, ih, if_neg Bool.false_ne_true]

theorem pick_eq_self (all : ∀ i, offset ≤ i → i < offset + byteLength s → has i = true) :
    pick has offset s = s := (pick_congr all).trans (pick_true offset s)

theorem pick_eq_nil (none : ∀ i, offset ≤ i → i < offset + byteLength s → has i = false) :
    pick has offset s = [] := (pick_congr none).trans (pick_false offset s)

/-- The part of a text between two others is the slice between their bytes. -/
theorem slice_append (before between after : List Char) :
    slice (before ++ (between ++ after)) (byteLength before)
      (byteLength before + byteLength between) = between := by
  have front : pick (fun i => byteLength before ≤ i && i < byteLength before + byteLength between) 0
      before = [] := by
    apply pick_eq_nil
    intro i _ high
    have below : ¬byteLength before ≤ i := by omega
    simp [below]
  have back : pick (fun i => byteLength before ≤ i && i < byteLength before + byteLength between)
      (0 + byteLength before + byteLength between) after = [] := by
    apply pick_eq_nil
    intro i low _
    have above : ¬i < byteLength before + byteLength between := by omega
    simp [above]
  have middle : pick (fun i => byteLength before ≤ i && i < byteLength before + byteLength between)
      (0 + byteLength before) between = between := by
    apply pick_eq_self
    intro i low high
    have inside : byteLength before ≤ i ∧ i < byteLength before + byteLength between := by omega
    simp [inside]
  rw [slice, pick_append, front, pick_append, middle, back, List.nil_append, List.append_nil]

/-! ### Text between code -/

theorem codeOf_textBlocks (between : List Char) : codeOf (textBlocks between) = [] := by
  unfold textBlocks
  split <;> rfl

theorem codeOf_code (between : List Char) (b : CodeBlock) (more : List Block) :
    codeOf (textBlocks between ++ .code b :: more) = b :: codeOf more := by
  have none := codeOf_textBlocks between
  rw [codeOf] at none
  rw [codeOf, List.filterMap_append, none]
  rfl

theorem textOf_code (between : List Char) (b : CodeBlock) (more : List Block) :
    textOf (textBlocks between ++ .code b :: more) = textOf (textBlocks between) ++ textOf more := by
  rw [textOf, List.flatMap_append]
  rfl

theorem filter_dropWhile {drop keep : Char → Bool} (apart : ∀ c, drop c = true → keep c = false)
    (s : List Char) : (s.dropWhile drop).filter keep = s.filter keep := by
  have none : (s.takeWhile drop).filter keep = [] := by
    rw [List.filter_eq_nil_iff]
    intro c member
    simp [apart c (List.mem_takeWhile_imp member)]
  calc
    (s.dropWhile drop).filter keep = (s.takeWhile drop ++ s.dropWhile drop).filter keep := by
      rw [List.filter_append, none, List.nil_append]
    _ = s.filter keep := by rw [List.takeWhile_append_dropWhile]

theorem visible_stripReturns (s : List Char) :
    (stripReturns s).filter (!isBlank ·) = s.filter (!isBlank ·) := by
  have blank : ∀ c, isReturn c = true → (!isBlank c) = false := by
    intro c line
    have either : c = '\r' ∨ c = '\n' := by simpa [isReturn] using line
    rcases either with rfl | rfl <;> rfl
  rw [stripReturns, dropWhileEnd, List.filter_reverse, filter_dropWhile blank, ← List.filter_reverse,
    List.reverse_reverse, filter_dropWhile blank]

theorem visible_textBlocks (between : List Char) :
    (textOf (textBlocks between)).filter (!isBlank ·) = between.filter (!isBlank ·) := by
  unfold textOf textBlocks
  split
  next blank =>
    have none : between.filter (!isBlank ·) = [] := by
      rw [List.filter_eq_nil_iff]
      intro c member
      simp [List.all_eq_true.mp blank c member]
    rw [none]
    rfl
  next => simpa [Block.shown] using visible_stripReturns between

/-! ### What is laid over a text -/

theorem Laid.bounds (laid : Laid offset s bs) : ∀ b ∈ codeOf bs,
    offset ≤ b.start ∧ b.start < b.stop ∧ b.stop ≤ offset + byteLength s := by
  induction laid with
  | last offset between => simp [codeOf_textBlocks]
  | @code offset between inside rest b more start stop some _ ih =>
    obtain ⟨c, inside, rfl⟩ := List.exists_cons_of_ne_nil some
    have size := c.utf8Size_pos
    rw [byteLength_cons] at stop
    rw [codeOf_code, byteLength_append, byteLength_append, byteLength_cons]
    refine List.forall_mem_cons.mpr ⟨by omega, fun later member => ?_⟩
    have bounds := ih later member
    omega

theorem Laid.ordered (laid : Laid offset s bs) :
    (codeOf bs).Pairwise fun b later => b.stop ≤ later.start := by
  induction laid with
  | last offset between => simp [codeOf_textBlocks]
  | code _ _ _ laid ih =>
    rw [codeOf_code]
    exact List.pairwise_cons.mpr ⟨fun later member => (laid.bounds later member).1, ih⟩

theorem Laid.aligned {text before : List Char} (laid : Laid offset s bs) (split : text = before ++ s)
    (place : offset = byteLength before) :
    ∀ b ∈ codeOf bs, IsBoundary text b.start ∧ IsBoundary text b.stop := by
  induction laid generalizing before with
  | last offset between => simp [codeOf_textBlocks]
  | @code offset between inside rest b more start stop _ _ ih =>
    subst place split
    have bytes : b.stop = byteLength (before ++ between ++ inside) := by
      rw [byteLength_append, byteLength_append, stop, start]
    rw [codeOf_code]
    refine List.forall_mem_cons.mpr ⟨⟨?_, ?_⟩, ih (by simp) bytes⟩
    · exact ⟨before ++ between, inside ++ rest, by simp, by rw [byteLength_append, start]⟩
    · exact ⟨before ++ between ++ inside, rest, by simp, bytes⟩

theorem Laid.eq_weave {text before : List Char} (laid : Laid offset s bs)
    (split : text = before ++ s) (place : offset = byteLength before) :
    bs = weave text offset (codeOf bs) := by
  induction laid generalizing before with
  | last offset between =>
    have whole := slice_append before between []
    rw [List.append_nil] at whole
    subst place split
    rw [codeOf_textBlocks, weave, byteLength_append, whole]
  | @code offset between inside rest b more start stop _ _ ih =>
    subst place split
    have bytes : b.stop = byteLength (before ++ between ++ inside) := by
      rw [byteLength_append, byteLength_append, stop, start]
    have later := ih (by simp) bytes
    rw [codeOf_code, weave, start, slice_append]
    exact congrArg (textBlocks between ++ .code b :: ·) later

/-- No visible character is lost or shown twice. -/
theorem Laid.kept (laid : Laid offset s bs) :
    (textOf bs).filter (!isBlank ·) =
      (pick (fun i => (codeOf bs).all (!·.covers i)) offset s).filter (!isBlank ·) := by
  induction laid with
  | last offset between =>
    rw [visible_textBlocks, codeOf_textBlocks]
    exact congrArg (List.filter _) (pick_true offset between).symm
  | @code offset between inside rest b more start stop some laid ih =>
    have later := laid.bounds
    have first : pick (fun i => (b :: codeOf more).all (!·.covers i)) offset between = between := by
      apply pick_eq_self
      intro i _ high
      refine List.all_eq_true.mpr (List.forall_mem_cons.mpr ⟨?_, fun c member => ?_⟩)
      · have before : ¬b.start ≤ i := by omega
        simp [CodeBlock.covers, before]
      · have bounds := later c member
        have before : ¬c.start ≤ i := by omega
        simp [CodeBlock.covers, before]
    have second : pick (fun i => (b :: codeOf more).all (!·.covers i)) (offset + byteLength between)
        inside = [] := by
      apply pick_eq_nil
      intro i low high
      have covered : b.start ≤ i ∧ i < b.stop := by omega
      simp [CodeBlock.covers, covered]
    have third : pick (fun i => (b :: codeOf more).all (!·.covers i))
        (offset + byteLength between + byteLength inside) rest =
          pick (fun i => (codeOf more).all (!·.covers i)) b.stop rest := by
      rw [← start, ← stop]
      apply pick_congr
      intro i low _
      have behind : ¬i < b.stop := by omega
      simp [CodeBlock.covers, behind]
    rw [codeOf_code, textOf_code, pick_append, pick_append, first, second, third, List.nil_append,
      List.filter_append, List.filter_append, visible_textBlocks, ih]

/-! ### The blocks of a document -/

theorem gap_append (between stop : List Char) : gap (between ++ stop) stop = textBlocks between := by
  have taken : (between ++ stop).take ((between ++ stop).length - stop.length) = between := by
    rw [List.length_append, Nat.add_sub_cancel, List.take_left]
  rw [gap, taken]
  rfl

theorem laid_blocksFrom {spans : List CodeSpan} (order : InOrder s spans) (offset : Nat) :
    Laid offset s (blocksFrom (offset + byteLength s) s spans) := by
  induction spans generalizing s offset with
  | nil =>
    have all := gap_append s []
    rw [List.append_nil] at all
    rw [blocksFrom, all]
    exact .last offset s
  | cons c spans ih =>
    obtain ⟨⟨between, rfl⟩, ⟨inside, split⟩, shorter, order⟩ := order
    have some : inside ≠ [] := by
      rintro rfl
      rw [← split] at shorter
      simp at shorter
    have bytes : byteLength c.start = byteLength inside + byteLength c.stop := by
      rw [← split, byteLength_append]
    have start : (CodeBlock.ofSpan (offset + byteLength (between ++ c.start)) c).start =
        offset + byteLength between := by
      simp only [CodeBlock.ofSpan, byteLength_append]
      omega
    have stop : (CodeBlock.ofSpan (offset + byteLength (between ++ c.start)) c).stop =
        offset + byteLength between + byteLength inside := by
      simp only [CodeBlock.ofSpan, byteLength_append]
      omega
    have size : offset + byteLength (between ++ c.start) =
        offset + byteLength between + byteLength inside + byteLength c.stop := by
      rw [byteLength_append]
      omega
    have later := ih order (offset + byteLength between + byteLength inside)
    rw [← size, ← stop] at later
    rw [blocksFrom, gap_append]
    have laid := Laid.code start (stop.trans (by rw [start])) some later
    rwa [split] at laid

/-- Whatever code blocks are found in order, with the text around them they make up the text. -/
theorem divides_blocksFrom {text : List Char} {spans : List CodeSpan} (order : InOrder text spans) :
    Divides text (blocksFrom (byteLength text) text spans) := by
  have laid := laid_blocksFrom order 0
  rw [Nat.zero_add] at laid
  have bounds := laid.bounds
  rw [Nat.zero_add] at bounds
  have split : text = [] ++ text := rfl
  exact ⟨fun b member => (bounds b member).2, laid.aligned split rfl, laid.ordered,
    laid.eq_weave split rfl, laid.kept⟩

end

/-- The blocks of a document make it up, and so they would with any other reading of its code that
finds code in order. -/
theorem divides_blocks (body : String) :
    Divides body.toList (blocks body) ∧
    ∀ spans, InOrder body.toList spans →
      Divides body.toList (blocksFrom (byteLength body.toList) body.toList spans) :=
  ⟨divides_blocksFrom (inOrder_codeSpansFrom _ {} body.toList), fun _ => divides_blocksFrom⟩

/-- Two blocks with nothing but blanks between them. -/
def quotedPage : String := "~~~\nx\n~~~\n\t\n> ü\r\n"

/-- A reading of both blocks as code. -/
def quotedSpans : List CodeSpan :=
  [⟨quotedPage.toList, "\n\t\n> ü\r\n".toList, "x\n".toList, some []⟩,
    ⟨"> ü\r\n".toList, "\r\n".toList, ['ü'], none⟩]

theorem divides_blocks_quotedPage :
    InOrder quotedPage.toList quotedSpans ∧
    Divides quotedPage.toList [.code ⟨none, "x\n", true, 0, 9⟩, .code ⟨none, "ü", false, 12, 16⟩] :=
  have order : InOrder quotedPage.toList quotedSpans :=
    ⟨by decide, by decide, by decide, by decide, by decide, by decide, trivial⟩
  ⟨order, (divides_blocks quotedPage).2 quotedSpans order⟩

/-- Places are counted in bytes, and the mark of a quote in front of code is text. -/
example : blocks "Größe:\r\n\n```sh x\nls\n```\n> ~~~\n> top\n\nEnd" =
    [.text "Größe:", .code ⟨some "sh", "ls\n", true, 11, 25⟩, .text "> ",
      .code ⟨none, "top\n", true, 28, 38⟩, .text "End"] := by decide

end CatalogueViewer.Markdown
