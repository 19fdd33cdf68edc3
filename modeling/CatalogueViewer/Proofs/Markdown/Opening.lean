import CatalogueViewer.Proofs.Markdown.Containers
import CatalogueViewer.Markdown.Structure

/-!
# Opening containers

Before every line of a document without empty list items the open containers are `Steady`.  A line
then leads through them and through those it opens to its first block, and if no quote and no item
is around this block, it has the whole line: `readBlock_cases`.
-/

namespace CatalogueViewer.Markdown

open Text

namespace Open

/-- No item waits for its content, and every item asks its lines for some indentation. -/
structure Steady (o : Open) : Prop where
  filled : o.emptyItem = false
  indented : Indented o.containers

variable {o : Open}

theorem Steady.start : Steady {} := ⟨rfl, fun _ member => nomatch member⟩

theorem Steady.finishEmptyItem_eq (steady : o.Steady) : o.finishEmptyItem = o := by
  have filled := steady.filled
  cases o
  simp_all [finishEmptyItem]

theorem pop_containers (o : Open) : o.pop.containers = o.containers.tail := by
  unfold pop
  split <;> simp [*]

theorem Steady.pop (steady : o.Steady) : o.pop.Steady := by
  constructor
  · unfold Open.pop
    split <;> simp [steady.filled]
  · intro n member
    rw [pop_containers] at member
    exact steady.indented n (List.mem_of_mem_tail member)

theorem popMany_containers (o : Open) (n : Nat) :
    (o.popMany n).containers = o.containers.drop n := by
  induction n generalizing o with
  | zero => rfl
  | succ n ih => rw [popMany, ih, pop_containers, List.drop_tail]

theorem Steady.popMany (steady : o.Steady) (n : Nat) : (o.popMany n).Steady := by
  induction n generalizing o with
  | zero => exact steady
  | succ n ih => exact ih steady.pop

theorem Steady.push (steady : o.Steady) {c : Container} (indented : ∀ n, c = .item n → 0 < n) :
    (o.push c).Steady := by
  refine ⟨steady.filled, fun n member => ?_⟩
  rcases List.mem_cons.mp member with same | before
  · exact indented n same.symm
  · exact steady.indented n before

theorem Steady.of_holders {o' : Open} (steady : o.Steady) (filled : o'.emptyItem = false)
    (same : holders o'.containers = holders o.containers) : o'.Steady :=
  ⟨filled, steady.indented.of_holders same⟩

theorem holders_loosen (cs : List Container) : holders (loosen cs) = holders cs := by
  unfold loosen
  split <;> rfl

theorem Steady.finishList (steady : o.Steady) :
    o.finishList.Steady ∧ holders o.finishList.containers = holders o.containers := by
  have loosened {p : Open} (steady : p.Steady) :
      (if p.afterBlank then { p with containers := loosen p.containers, afterBlank := false }
        else p).Steady ∧
      holders (if p.afterBlank then { p with containers := loosen p.containers, afterBlank := false }
        else p).containers = holders p.containers := by
    have same := holders_loosen p.containers
    split
    · exact ⟨steady.of_holders steady.filled same, same⟩
    · exact ⟨steady, rfl⟩
  unfold Open.finishList
  rw [steady.finishEmptyItem_eq]
  dsimp only
  split
  next mark tight rest stack =>
    have same : holders o.pop.containers = holders o.containers := by
      rw [pop_containers, stack]
      rfl
    exact ⟨(loosened steady.pop).1, (loosened steady.pop).2.trans same⟩
  · exact loosened steady

theorem Steady.continueList (steady : o.Steady) (mark : Char) :
    (o.continueList mark).Steady ∧ holders (o.continueList mark).containers = holders o.containers := by
  have start {p : Open} (steady : p.Steady) (same : holders p.containers = holders o.containers) :
      ({ p.push (.list mark true) with afterBlank := false } : Open).Steady ∧
        holders (p.push (.list mark true)).containers = holders o.containers :=
    ⟨steady.of_holders steady.filled rfl, same⟩
  unfold Open.continueList
  rw [steady.finishEmptyItem_eq]
  dsimp only
  split
  · exact start steady rfl
  next m tight rest stack =>
    split
    · have same : holders (.list m (tight && !o.afterBlank) :: rest) = holders o.containers := by
        rw [stack]
        rfl
      exact ⟨steady.of_holders steady.filled same, same⟩
    · exact start steady.finishList.1 steady.finishList.2
  · exact start steady.finishList.1 steady.finishList.2

theorem Steady.blank (steady : o.Steady) : o.blank.Steady := by
  unfold Open.blank
  split
  · exact steady
  next indent rest stack =>
    have same : (Container.item (if o.emptyItem then 0 else indent) :: rest) = o.containers := by
      rw [stack, steady.filled]
      rfl
    exact steady.of_holders steady.filled (by rw [same])
  · exact steady.of_holders steady.filled rfl

end Open

/-! ### From a line to its first block -/

variable {o o' : Open} {c d : Cursor} {next : List Char}

/-- The ways that opening containers at a cursor can end: in front of a block, with a quote or an item
around it if there was anything to open, or after an empty item. -/
inductive Opened (o : Open) (c : Cursor) : Open × (Cursor ⊕ List Char) → Prop
  | block {p : Open} {d : Cursor} : p.Steady → Leads c.rest d.rest →
      holdsLines p.containers ∨ p = o ∧ d = c → Opened o c (p, .inl d)
  | emptyItem {p : Open} {next item : List Char} : Leads c.rest item → startsEmptyItem item →
      Opened o c (p, .inr next)

theorem Opened.of_held {p : Open} {result : Open × (Cursor ⊕ List Char)}
    (held : holdsLines p.containers) (lead : Leads c.rest d.rest) (opened : Opened p d result) :
    Opened o c result := by
  cases opened with
  | block steady lead' held' =>
    refine .block steady (lead.trans lead') (.inl ?_)
    obtain held' | ⟨rfl, -⟩ := held'
    · exact held'
    · exact held
  | emptyItem lead' empty => exact .emptyItem (lead.trans lead') empty

theorem opened_openContainers (steady : o.Steady) (fuel : Nat) (c : Cursor) :
    Opened o c (openContainers fuel o c) := by
  induction fuel generalizing o c with
  | zero => exact .block steady (.refl _) (.inr ⟨rfl, rfl⟩)
  | succ fuel ih =>
    have lead := leads_use 4 c
    have flat := Cursor.spare_use (n := 4) (c := c)
    rw [openContainers]
    rcases used : c.use 4 with ⟨missing, d⟩
    rw [used] at lead flat
    split
    · exact .block steady (.refl _) (.inr ⟨rfl, rfl⟩)
    next missing d some used' =>
      obtain ⟨rfl, rfl⟩ := Prod.mk.inj used'
      have flat := flat some
      split
      next mark indent e item =>
        obtain ⟨positive, empty, content⟩ := itemStart?_eq_some flat item
        dsimp only
        cases line : blankLine? e.rest with
        | some next =>
          exact .emptyItem lead (empty (by rw [isBlankLine, line]; rfl))
        | none =>
          have visible : ¬isBlankLine e.rest := by simp [isBlankLine, line]
          have steady' : ((o.continueList mark).push (.item indent)).Steady :=
            (steady.continueList mark).1.push fun n same => by
              cases same
              exact positive
          exact .of_held (by simp [Open.push, holdsLines, Container.isList])
            (lead.trans (content visible)) (ih steady' e)
      next =>
        split
        next e quote =>
          have steady' : (o.finishList.push .quote).Steady :=
            steady.finishList.1.push fun n same => by cases same
          exact .of_held (by simp [Open.push, holdsLines, Container.isList])
            (lead.trans (leads_of_afterQuoteMark? quote)) (ih steady' e)
        next => exact .block steady (.refl _) (.inr ⟨rfl, rfl⟩)

theorem openContainers_of_startsFlush {s : List Char} (flush : startsFlush s) (fuel : Nat) :
    openContainers fuel o ⟨s, 0, 0⟩ = (o, .inl ⟨s, 0, 0⟩) := by
  cases fuel with
  | zero => rfl
  | succ fuel =>
    have none : itemStart? 0 ⟨s, 0, 0⟩ = none := by
      simp only [itemStart?, listMark?_of_startsFlush flush]
    simp only [openContainers, use_of_startsFlush flush, Nat.sub_self, none,
      afterQuoteMark?_of_startsFlush flush]

/-- A thematic break opens no container. -/
theorem openContainers_of_startsBreak (line : startsBreak c.rest) (fuel : Nat) :
    openContainers fuel o c = (o, .inl c) := by
  cases fuel with
  | zero => rfl
  | succ fuel =>
    rw [openContainers]
    rcases used : c.use 4 with ⟨missing, d⟩
    split
    · rfl
    next missing' d' some same =>
      obtain ⟨rfl, rfl⟩ := Prod.mk.inj same
      have rest := Cursor.rest_use (n := 4) (c := c) (by rw [used]; exact some)
      rw [used] at rest
      obtain ⟨next, line⟩ := Option.isSome_iff_exists.mp line
      rw [← rest] at line
      rw [itemStart?_of_afterBreak? line, afterQuoteMark?_of_afterBreak? line]

theorem holdsLines_reverse (cs : List Container) : holdsLines cs.reverse = holdsLines cs := by
  rw [holdsLines, holdsLines, List.any_reverse]

theorem holdsLines_popMany (o : Open) (entered : Nat) :
    holdsLines (o.popMany (o.containers.length - entered)).containers =
      holdsLines (o.outer.take entered) := by
  rw [Open.popMany_containers, Open.outer, List.take_reverse, holdsLines_reverse]

/-- The containers that a line opens end in front of a block if no item of the line is empty. -/
theorem openContainers_of_fillsItems {s : List Char} (steady : o.Steady) (filled : fillsItems s)
    (outer : List Container) (fuel : Nat) :
    ∃ p d, openContainers fuel o (matching ⟨s, 0, 0⟩ outer).2 = (p, .inl d) ∧ p.Steady ∧
      Leads s d.rest ∧ (holdsLines p.containers ∨ p = o ∧ d = (matching ⟨s, 0, 0⟩ outer).2) := by
  have lead := leads_matching ⟨s, 0, 0⟩ outer
  have blanks := fun other => dropWhile_matching (c := ⟨s, 0, 0⟩) other outer
  generalize (matching ⟨s, 0, 0⟩ outer).2 = c at lead blanks ⊢
  have opened := opened_openContainers steady fuel c
  rcases result : openContainers fuel o c with ⟨p, place⟩
  rw [result] at opened
  cases opened with
  | @block _ d steady' lead' held => exact ⟨p, d, rfl, steady', lead.trans lead', held⟩
  | emptyItem lead' empty =>
    -- The marks of a thematic break look like empty items, but the break opens nothing.
    have line : startsBreak s := by
      simpa [fillsItems, (lead.trans lead').holdsEmptyItem empty] using filled
    obtain ⟨next, after⟩ := Option.isSome_iff_exists.mp line
    obtain ⟨mark, rest, text, kind⟩ := head_of_afterBreak? after
    have other : (s.dropWhile isTabOrSpace).head? ≠ some '>' := by
      rcases kind with rfl | rfl | rfl <;> simp [text]
    have line' : startsBreak c.rest := by rwa [startsBreak, blanks other]
    rw [openContainers_of_startsBreak line'] at result
    cases result

/-- A block is read from a place that the line leads to.  A quote or an item is around it, in which
case the line does not start flush, or the block has the whole line. -/
theorem readBlock_cases {s : List Char} (steady : o.Steady) (filled : fillsItems s) :
    (∃ o' t next, o'.Steady ∧ Leads s t ∧ blankLine? t = some next ∧
      readBlock o s = ⟨o', none, next⟩) ∨
    ∃ o' d, o'.Steady ∧ Leads s d.rest ∧ blankLine? d.rest = none ∧ readBlock o s = readLeaf o' d ∧
      (holdsLines o'.outer = true ∧ startsFlush s = false ∨
        holdsLines o'.outer = false ∧ d = ⟨s, 0, 0⟩) := by
  have indented : Indented o.outer := fun n member =>
    steady.indented n (List.mem_reverse.mp member)
  have whole := matching_eq_or_holds ⟨s, 0, 0⟩ o.outer
  have outside := fun flush => matching_of_startsFlush (s := s) flush indented
  rw [← holdsLines_popMany] at whole
  simp only [← holdsLines_popMany] at outside
  rw [readBlock]
  have steady' := steady.popMany (o.containers.length - (matching ⟨s, 0, 0⟩ o.outer).1)
  obtain ⟨q, d, result, steadyq, lead, held⟩ :=
    openContainers_of_fillsItems steady' filled o.outer (s.length + 1)
  dsimp only
  rw [result]
  dsimp only
  cases line : blankLine? d.rest with
  | some next => exact .inl ⟨q.blank, d.rest, next, steadyq.blank, lead, line, rfl⟩
  | none =>
    obtain ⟨closed, holders⟩ := steadyq.finishList
    refine .inr ⟨q.finishList, d, closed, lead, line, rfl, ?_⟩
    rw [Open.outer, holdsLines_reverse, holdsLines_of_holders holders]
    cases inside : holdsLines q.containers with
    | true =>
      -- A line that starts flush leaves all quotes and items and opens none.
      refine .inl ⟨rfl, ?_⟩
      by_contra flush
      have flush : startsFlush s := by simpa using flush
      obtain ⟨stays, lists⟩ := outside flush
      rw [stays, openContainers_of_startsFlush flush] at result
      cases result
      rw [lists] at inside
      cases inside
    | false =>
      refine .inr ⟨rfl, ?_⟩
      obtain held | ⟨rfl, rfl⟩ := held
      · rw [inside] at held
        cases held
      · exact whole.resolve_right (by simp [inside])

end CatalogueViewer.Markdown
