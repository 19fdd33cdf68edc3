import CatalogueViewer.Proofs.Markdown.Places

/-!
# Lines in containers

What a line loses to the containers it goes on with or opens, and what the open containers have in
common before every line.  A line that starts with the mark of a heading or of a fence is in no
quote and in no list item.
-/

namespace CatalogueViewer.Markdown

open Text

/-! ### Columns of white space -/

namespace Cursor

theorem useRest_blanks (n column : Nat) (s : List Char) :
    ∃ blanks, s = blanks ++ (useRest n column s).2.rest ∧ ∀ c ∈ blanks, isTabOrSpace c := by
  fun_induction useRest n column s with
  | case1 column s => exact ⟨[], rfl, by simp⟩
  | case2 => exact ⟨[], rfl, by simp⟩
  | case3 n column s ih =>
    obtain ⟨blanks, split, blank⟩ := ih
    exact ⟨' ' :: blanks, by rw [List.cons_append, ← split], by simpa [isTabOrSpace] using blank⟩
  | case4 n column s width short other =>
    exact ⟨['\t'], rfl, by simp [isTabOrSpace]⟩
  | case5 n column s width wide other ih =>
    obtain ⟨blanks, split, blank⟩ := ih
    exact ⟨'\t' :: blanks, by rw [List.cons_append, ← split], by simpa [isTabOrSpace] using blank⟩
  | case6 => exact ⟨[], rfl, by simp⟩

theorem use_blanks (n : Nat) (c : Cursor) :
    ∃ blanks, c.rest = blanks ++ (c.use n).2.rest ∧ ∀ d ∈ blanks, isTabOrSpace d := by
  rw [use]
  split
  · exact ⟨[], rfl, by simp⟩
  · exact useRest_blanks _ _ _

theorem spare_useRest {n column : Nat} {s : List Char} (missing : (useRest n column s).1 ≠ 0) :
    (useRest n column s).2.spare = 0 := by
  fun_induction useRest n column s <;> simp_all

theorem spare_use {n : Nat} {c : Cursor} (missing : (c.use n).1 ≠ 0) : (c.use n).2.spare = 0 := by
  rw [use] at missing ⊢
  split at missing
  · exact absurd rfl missing
  next enough =>
    rw [if_neg enough]
    exact spare_useRest missing

theorem rest_useRest {n column : Nat} {s : List Char} (missing : (useRest n column s).1 ≠ 0) :
    (useRest n column s).2.rest = s.dropWhile isTabOrSpace := by
  fun_induction useRest n column s <;> simp_all [isTabOrSpace]

theorem rest_use {n : Nat} {c : Cursor} (missing : (c.use n).1 ≠ 0) :
    (c.use n).2.rest = c.rest.dropWhile isTabOrSpace := by
  rw [use] at missing ⊢
  split at missing
  · exact absurd rfl missing
  next enough =>
    rw [if_neg enough]
    exact rest_useRest missing

theorem dropWhile_use (n : Nat) (c : Cursor) :
    (c.use n).2.rest.dropWhile isTabOrSpace = c.rest.dropWhile isTabOrSpace := by
  obtain ⟨blanks, split, blank⟩ := c.use_blanks n
  rw [split, List.dropWhile_append_of_pos blank]

theorem useRest_of_head {n column : Nat} {s : List Char}
    (visible : ∀ c, s.head? = some c → isTabOrSpace c = false) :
    useRest n column s = (n, ⟨s, column, 0⟩) := by
  cases n with
  | zero => rw [useRest]
  | succ n =>
    cases s with
    | nil => rw [useRest]; simp
    | cons c s =>
      have other : c ≠ ' ' ∧ c ≠ '\t' := by simpa [isTabOrSpace] using visible c rfl
      rw [useRest, if_neg other.1, if_neg other.2]

theorem use_one {c d : Cursor} {k : Nat} (flat : c.spare = 0) (used : c.use 1 = (k, d)) :
    (∃ blank, isTabOrSpace blank ∧ c.rest = blank :: d.rest) ∨ k ≠ 0 ∧ d.rest = c.rest := by
  rw [use, flat, if_neg (Nat.not_lt_zero 1)] at used
  by_cases visible : ∀ e, c.rest.head? = some e → isTabOrSpace e = false
  · rw [useRest_of_head visible] at used
    cases used
    exact .inr ⟨by simp, rfl⟩
  · obtain ⟨blank, first, white⟩ : ∃ e, c.rest.head? = some e ∧ isTabOrSpace e = true := by
      simpa using visible
    obtain ⟨rest, text⟩ := List.head?_eq_some_iff.mp first
    refine .inl ⟨blank, white, ?_⟩
    have either : blank = ' ' ∨ blank = '\t' := by simpa [isTabOrSpace] using white
    rw [text] at used ⊢
    rcases either with rfl | rfl
    · simp only [useRest, if_pos] at used
      cases used
      rfl
    · have wide : 0 + 1 - (4 - c.column % 4) = 0 := by omega
      simp only [Nat.sub_zero, useRest, wide, Char.reduceEq, if_false, if_true] at used
      by_cases short : 0 + 1 < 4 - c.column % 4
      · rw [if_pos short] at used
        cases used
        rfl
      · rw [if_neg short] at used
        cases used
        rfl

theorem useRest_replicate {n column k : Nat} {s : List Char} (short : k ≤ n)
    (visible : ∀ c, s.head? = some c → isTabOrSpace c = false) :
    useRest n column (List.replicate k ' ' ++ s) = (n - k, ⟨s, column + k, 0⟩) := by
  induction k generalizing n column with
  | zero => exact useRest_of_head visible
  | succ k ih =>
    obtain ⟨m, rfl⟩ : ∃ m, n = m + 1 := ⟨n - 1, by omega⟩
    rw [List.replicate_succ, List.cons_append, useRest, if_pos rfl, ih (by omega)]
    simp only [Nat.add_sub_add_right, Nat.add_assoc, Nat.add_comm 1 k]

/-- Less than four columns of a line are spaces. -/
theorem useRest_spaces {n column k : Nat} {s : List Char} {d : Cursor}
    (bound : n + column ≤ 4) (used : useRest n column s = (k, d)) (missing : k ≠ 0) :
    ∃ spaces, s = List.replicate spaces ' ' ++ d.rest ∧ spaces + k = n ∧
      ∀ c, d.rest.head? = some c → isTabOrSpace c = false := by
  fun_induction useRest n column s with
  | case1 => simp_all
  | case2 n column some =>
    cases used
    exact ⟨0, rfl, by omega, by simp⟩
  | case3 n column s ih =>
    obtain ⟨spaces, split, count, visible⟩ := ih (by omega) used
    exact ⟨spaces + 1, by rw [List.replicate_succ, List.cons_append, ← split], by omega, visible⟩
  | case4 => simp_all
  | case5 n column s width wide other ih =>
    have all : n + 1 - width = 0 := by omega
    rw [all, useRest] at used
    cases used
    exact absurd rfl missing
  | case6 n column c s space tab =>
    cases used
    refine ⟨0, rfl, by omega, ?_⟩
    simp [isTabOrSpace, space, tab]

end Cursor

/-! ### Marks of containers -/

/-- A character of what containers ask for or of the marks that open them. -/
def isMarkChar (c : Char) : Bool :=
  isTabOrSpace c || c == '>' || isBullet c || c.isDigit || c == '.' || c == ')'

/-- A list item can start after this character. -/
def endsMark (c : Char) : Bool := isTabOrSpace c || c == '>'

/-- A list item starts here that has nothing on its line. -/
def startsEmptyItem (s : List Char) : Bool :=
  (listMark? s).any fun m => isBlankLine (s.drop m.width)

/-- A line holds an empty list item; `ready` tells whether an item can start here. -/
def holdsEmptyItem (ready : Bool) : List Char → Bool
  | [] => false
  | c :: s =>
    (ready && startsEmptyItem (c :: s)) || (isMarkChar c && holdsEmptyItem (endsMark c) s)

/-- A thematic break is all that the line holds. -/
def startsBreak (s : List Char) : Bool := (afterBreak? (s.dropWhile isTabOrSpace)).isSome

/-- Every list item of the line has something on it; a thematic break is no list item. -/
def fillsItems (s : List Char) : Bool := !holdsEmptyItem true s || startsBreak s

/-- Nothing but what containers ask for and their marks stands between two places of a line. -/
def Leads (s t : List Char) : Prop :=
  ∃ marks, s = marks ++ t ∧ (∀ c ∈ marks, isMarkChar c) ∧ ∀ c, marks.getLast? = some c → endsMark c

section

variable {s t u : List Char}

theorem Leads.refl (s : List Char) : Leads s s := ⟨[], rfl, by simp, by simp⟩

theorem Leads.trans (first : Leads s t) (second : Leads t u) : Leads s u := by
  obtain ⟨marks, rfl, mark, ends⟩ := first
  obtain ⟨more, rfl, mark', ends'⟩ := second
  refine ⟨marks ++ more, (List.append_assoc _ _ _).symm, ?_, ?_⟩
  · intro c member
    exact (List.mem_append.mp member).elim (mark c) (mark' c)
  · intro c last
    rw [List.getLast?_append] at last
    cases final : more.getLast? with
    | none => exact ends c (by simpa [final] using last)
    | some d => exact ends' c (by simpa [final] using last)

theorem leads_of_blanks {blanks : List Char} (blank : ∀ c ∈ blanks, isTabOrSpace c)
    (s : List Char) : Leads (blanks ++ s) s := by
  refine ⟨blanks, rfl, ?_, ?_⟩
  · intro c member
    simp [isMarkChar, blank c member]
  · intro c last
    simp [endsMark, blank c (List.mem_of_getLast? last)]

theorem leads_use (n : Nat) (c : Cursor) : Leads c.rest (c.use n).2.rest := by
  obtain ⟨blanks, split, blank⟩ := c.use_blanks n
  rw [split]
  exact leads_of_blanks blank _

theorem leads_skipAll (c : Cursor) : Leads c.rest c.skipAll.rest := by
  have blank : ∀ d ∈ c.rest.takeWhile fun d => d == ' ' || d == '\t', isTabOrSpace d :=
    fun d member => List.mem_takeWhile_imp member
  have lead := leads_of_blanks blank c.skipAll.rest
  rwa [Cursor.skipAll, List.takeWhile_append_dropWhile] at lead

theorem Leads.inLine (lead : Leads s t) : ∃ marks, '\n' ∉ marks ∧ s = marks ++ t := by
  obtain ⟨marks, split, mark, -⟩ := lead
  exact ⟨marks, fun member => absurd (mark _ member) (by decide), split⟩

theorem Leads.passes {P : List Char → Prop} (lead : Leads s t) : Passes P s t := by
  obtain ⟨marks, inLine, rfl⟩ := lead.inLine
  exact passes_append inLine t

theorem Leads.nextLine_eq (lead : Leads s t) : nextLine s = nextLine t := by
  obtain ⟨marks, inLine, rfl⟩ := lead.inLine
  exact nextLine_append inLine t

theorem Leads.suffix (lead : Leads s t) : t <:+ s := by
  obtain ⟨marks, -, rfl⟩ := lead.inLine
  exact List.suffix_append marks t

theorem holdsEmptyItem_append {marks : List Char} (mark : ∀ c ∈ marks, isMarkChar c) {ready : Bool}
    (first : marks = [] → ready) (ends : ∀ c, marks.getLast? = some c → endsMark c)
    (empty : startsEmptyItem t) : holdsEmptyItem ready (marks ++ t) := by
  induction marks generalizing ready with
  | nil =>
    cases t with
    | nil => cases empty
    | cons c t => simp [holdsEmptyItem, first rfl, empty]
  | cons c marks ih =>
    have lead : isMarkChar c := mark c List.mem_cons_self
    have rest : holdsEmptyItem (endsMark c) (marks ++ t) := by
      refine ih (fun d member => mark d (List.mem_cons_of_mem c member)) ?_ ?_
      · intro none
        exact ends c (by simp [none])
      · intro d last
        exact ends d (by simp [List.getLast?_cons, last])
    simp [holdsEmptyItem, lead, rest]

theorem Leads.holdsEmptyItem (lead : Leads s t) (empty : startsEmptyItem t) :
    holdsEmptyItem true s := by
  obtain ⟨marks, rfl, mark, ends⟩ := lead
  exact holdsEmptyItem_append mark (fun _ => rfl) ends empty

/-- The number of an item and the character after it are marks. -/
theorem isMarkChar_of_number {d : Char} {tail : List Char}
    (after : s.drop (s.takeWhile Char.isDigit).length = d :: tail) (ends : d = '.' ∨ d = ')') :
    ∀ c ∈ s.take ((s.takeWhile Char.isDigit).length + 1), isMarkChar c := by
  have split := List.takeWhile_append_dropWhile (p := Char.isDigit) (l := s)
  have digits : ∀ e ∈ s.takeWhile Char.isDigit, e.isDigit := fun e member =>
    List.mem_takeWhile_imp member
  rw [← drop_length_takeWhile, after] at split
  generalize s.takeWhile Char.isDigit = run at split digits
  rw [← split, List.take_length_add_append]
  intro c member
  rcases List.mem_append.mp member with digit | last
  · simp [isMarkChar, digits c digit]
  · have same : c = d := by simpa using last
    rcases ends with mark | mark <;> rw [same, mark] <;> decide

theorem mark_of_listMark? {m : ListMark} (found : listMark? s = some m) :
    ∀ c ∈ s.take m.width, isMarkChar c := by
  unfold listMark? at found
  split at found
  · cases found
  next first rest =>
    split at found
    next bullet =>
      cases found
      simp [isMarkChar, bullet]
    next =>
      dsimp only at found
      split at found
      · cases found
      next d after =>
        split at found
        next number =>
          cases found
          obtain ⟨tail, after⟩ := List.head?_eq_some_iff.mp after
          exact isMarkChar_of_number after (by simp_all)
        next => cases found

theorem isBlankLine_append {blanks : List Char} (blank : ∀ c ∈ blanks, isTabOrSpace c)
    (s : List Char) : isBlankLine (blanks ++ s) = isBlankLine s := by
  have spacing : ∀ c ∈ blanks, isSpacing c := by
    intro c member
    have either : c = ' ' ∨ c = '\t' := by simpa [isTabOrSpace] using blank c member
    rcases either with rfl | rfl <;> rfl
  rw [isBlankLine, blankLine?, List.dropWhile_append_of_pos spacing, isBlankLine, blankLine?]

theorem isBlankLine_use (n : Nat) (c : Cursor) :
    isBlankLine (c.use n).2.rest = isBlankLine c.rest := by
  obtain ⟨blanks, split, blank⟩ := c.use_blanks n
  rw [split, isBlankLine_append blank]

theorem dropWhile_isSpacing_of_atLineEnd {s : List Char} (ends : atLineEnd s) :
    s.dropWhile isSpacing = s := by
  unfold atLineEnd lineEnd? at ends
  split at ends
  · rfl
  · rfl
  · rfl
  · rfl
  · cases ends

theorem isBlankLine_of_atLineEnd {s : List Char} (ends : atLineEnd s) : isBlankLine s := by
  rwa [isBlankLine, blankLine?, dropWhile_isSpacing_of_atLineEnd ends]

/-- One column of white space belongs to the mark of an item, unless the line ends with the mark. -/
theorem leads_afterMark {marks : List Char} {c d : Cursor} (flat : c.spare = 0)
    (mark : ∀ e ∈ marks, isMarkChar e)
    (found : (match c.use 1 with
      | (0, d) => some d
      | (_, d) => if atLineEnd d.rest then some d else none) = some d) :
    isBlankLine d.rest = isBlankLine c.rest ∧
      (¬isBlankLine d.rest → Leads (marks ++ c.rest) d.rest) := by
  have same := isBlankLine_use 1 c
  split at found
  next e used =>
    cases found
    rw [used] at same
    refine ⟨same, fun _ => ?_⟩
    obtain ⟨blank, white, text⟩ | ⟨missing, -⟩ := Cursor.use_one flat used
    · refine ⟨marks ++ [blank], by simp [text], ?_, by simp [endsMark, white]⟩
      intro e member
      rcases List.mem_append.mp member with inside | last
      · exact mark e inside
      · have white : isTabOrSpace e := by simp_all
        simp [isMarkChar, white]
    · exact absurd rfl missing
  next e _ used =>
    rw [used] at same
    split at found
    next ends =>
      cases found
      exact ⟨same, absurd (isBlankLine_of_atLineEnd ends)⟩
    next => cases found

/-- An item with something on its line stands at its content, and so the line leads there. -/
theorem itemStart?_eq_some {outerIndent indent : Nat} {mark : Char} {c d : Cursor}
    (flat : c.spare = 0) (found : itemStart? outerIndent c = some (mark, indent, d)) :
    0 < indent ∧ (isBlankLine d.rest → startsEmptyItem c.rest) ∧
      (¬isBlankLine d.rest → Leads c.rest d.rest) := by
  unfold itemStart? at found
  split at found
  · cases found
  next m first =>
    have empty : startsEmptyItem c.rest = isBlankLine (c.rest.drop m.width) := by
      rw [startsEmptyItem, first, Option.any_some]
    split at found
    · cases found
    · dsimp only at found
      split at found
      · cases found
      next content stands =>
        have after := @leads_afterMark (c.rest.take m.width)
          ⟨c.rest.drop m.width, c.column + m.width, c.spare⟩ content flat
          (mark_of_listMark? first) stands
        dsimp only at after
        rw [List.take_append_drop, ← empty] at after
        obtain ⟨same, reached⟩ := after
        split at found
        · cases found
          exact ⟨by omega, fun line => same ▸ line, reached⟩
        next visible =>
          split at found
          · cases found
            exact ⟨by omega, fun line => same ▸ line, reached⟩
          next missing e _ used =>
            cases found
            have lead := leads_use 4 content
            have blank := isBlankLine_use 4 content
            rw [used] at lead blank
            exact ⟨by omega, fun line => absurd (blank ▸ line) visible,
              fun _ => (reached visible).trans lead⟩

theorem leads_of_afterQuoteMark? {c d : Cursor} (found : afterQuoteMark? c = some d) :
    Leads c.rest d.rest := by
  obtain ⟨e, mark, rfl⟩ := Option.map_eq_some_iff.mp found
  unfold Cursor.char? at mark
  split at mark
  · cases mark
  next first rest text =>
    split at mark
    next quote =>
      cases mark
      have one : Leads c.rest rest := by
        refine ⟨['>'], by rw [text, quote]; rfl, ?_, ?_⟩ <;> simp [isMarkChar, endsMark]
      exact one.trans (leads_use 1 ⟨rest, c.column + 1, c.spare⟩)
    · cases mark

end

/-! ### Containers a line goes on with -/

def Container.isList : Container → Bool
  | .list _ _ => true
  | _ => false

/-- Some container is a quote or an item. -/
def holdsLines (containers : List Container) : Bool := containers.any (!·.isList)

/-- Every item asks its lines for some indentation. -/
def Indented (containers : List Container) : Prop := ∀ n, .item n ∈ containers → 0 < n

/-- The quotes and items, which lines have to ask for. -/
def holders (containers : List Container) : List Container := containers.filter (!·.isList)

theorem holdsLines_of_holders {cs ds : List Container} (same : holders cs = holders ds) :
    holdsLines cs = holdsLines ds := by
  have any (cs : List Container) : holdsLines cs = (holders cs).any fun _ => true := by
    rw [holdsLines, holders, List.any_filter]
    simp
  rw [any, any, same]

theorem Indented.of_holders {cs ds : List Container} (indented : Indented cs)
    (same : holders ds = holders cs) : Indented ds := by
  intro n member
  have held : .item n ∈ holders ds := List.mem_filter.mpr ⟨member, rfl⟩
  rw [same] at held
  exact indented n ((List.mem_filter.mp held).1)

theorem leads_of_enter? {c d : Cursor} {container : Container}
    (entered : container.enter? c = some d) : Leads c.rest d.rest := by
  cases container with
  | quote => exact (leads_use 3 c).trans (leads_of_afterQuoteMark? entered)
  | list mark tight =>
    cases entered
    exact .refl c.rest
  | item indent =>
    have lead := leads_use indent c
    simp only [Container.enter?] at entered
    split at entered
    next e used =>
      cases entered
      rwa [used] at lead
    next e _ used =>
      split at entered
      · cases entered
        rwa [used] at lead
      · cases entered

theorem leads_matching (c : Cursor) (outer : List Container) :
    Leads c.rest (matching c outer).2.rest := by
  induction outer generalizing c with
  | nil => exact .refl c.rest
  | cons container inner ih =>
    rw [matching]
    cases entered : container.enter? c with
    | none => exact .refl c.rest
    | some d => exact (leads_of_enter? entered).trans (ih d)

theorem matching_eq_or_holds (c : Cursor) (outer : List Container) :
    (matching c outer).2 = c ∨ holdsLines (outer.take (matching c outer).1) := by
  induction outer generalizing c with
  | nil => exact .inl rfl
  | cons container inner ih =>
    rw [matching]
    cases entered : container.enter? c with
    | none => exact .inl rfl
    | some d =>
      cases container with
      | list mark tight =>
        cases entered
        simpa [holdsLines, Container.isList] using ih c
      | quote => simp [holdsLines, Container.isList]
      | item indent => simp [holdsLines, Container.isList]

/-- A line starts with the mark of a heading or of a code fence. -/
def startsFlush (s : List Char) : Bool :=
  s.head?.any fun c => c == '#' || c == '\x60' || c == '~'

theorem exists_of_startsFlush {s : List Char} (flush : startsFlush s) :
    ∃ c rest, s = c :: rest ∧ (c = '#' ∨ c = '\x60' ∨ c = '~') := by
  cases s with
  | nil => cases flush
  | cons c rest => exact ⟨c, rest, rfl, by simpa [startsFlush, or_assoc] using flush⟩

theorem use_of_startsFlush {s : List Char} (flush : startsFlush s) (n : Nat) :
    Cursor.use n ⟨s, 0, 0⟩ = (n, ⟨s, 0, 0⟩) := by
  have visible : ∀ c, s.head? = some c → isTabOrSpace c = false := by
    rintro c first
    obtain ⟨d, rest, rfl, kind⟩ := exists_of_startsFlush flush
    cases first
    rcases kind with rfl | rfl | rfl <;> rfl
  rw [Cursor.use, if_neg (Nat.not_lt_zero n), Nat.sub_zero, Cursor.useRest_of_head visible]

theorem afterQuoteMark?_of_startsFlush {s : List Char} (flush : startsFlush s) :
    afterQuoteMark? ⟨s, 0, 0⟩ = none := by
  obtain ⟨c, rest, rfl, rfl | rfl | rfl⟩ := exists_of_startsFlush flush <;> rfl

theorem atLineEnd_of_startsFlush {s : List Char} (flush : startsFlush s) : atLineEnd s = false := by
  obtain ⟨c, rest, rfl, rfl | rfl | rfl⟩ := exists_of_startsFlush flush <;> rfl

theorem listMark?_of_startsFlush {s : List Char} (flush : startsFlush s) : listMark? s = none := by
  obtain ⟨c, rest, rfl, rfl | rfl | rfl⟩ := exists_of_startsFlush flush <;> rfl

theorem isBlankLine_of_startsFlush {s : List Char} (flush : startsFlush s) :
    isBlankLine s = false := by
  obtain ⟨c, rest, rfl, rfl | rfl | rfl⟩ := exists_of_startsFlush flush <;> rfl

theorem Leads.eq_of_startsFlush {s t : List Char} (lead : Leads s t) (flush : startsFlush s) :
    t = s := by
  obtain ⟨marks, rfl, mark, -⟩ := lead
  cases marks with
  | nil => rfl
  | cons c marks =>
    have first := mark c List.mem_cons_self
    obtain ⟨d, rest, same, kind⟩ := exists_of_startsFlush flush
    cases same
    rcases kind with rfl | rfl | rfl <;> cases first

theorem matching_of_startsFlush {s : List Char} {outer : List Container} (flush : startsFlush s)
    (indented : Indented outer) :
    (matching ⟨s, 0, 0⟩ outer).2 = ⟨s, 0, 0⟩ ∧
      holdsLines (outer.take (matching ⟨s, 0, 0⟩ outer).1) = false := by
  induction outer with
  | nil => exact ⟨rfl, rfl⟩
  | cons container inner ih =>
    have inside := ih fun n member => indented n (List.mem_cons_of_mem container member)
    rw [matching]
    cases container with
    | list mark tight => simpa [Container.enter?, holdsLines, Container.isList] using inside
    | quote =>
      rw [Container.enter?, Cursor.skip, use_of_startsFlush flush,
        afterQuoteMark?_of_startsFlush flush]
      exact ⟨rfl, rfl⟩
    | item n =>
      obtain ⟨m, rfl⟩ : ∃ m, n = m + 1 := ⟨n - 1, by have := indented n (by simp); omega⟩
      have missed : (Container.item (m + 1)).enter? ⟨s, 0, 0⟩ = none := by
        simp [Container.enter?, use_of_startsFlush flush, atLineEnd_of_startsFlush flush]
      rw [missed]
      exact ⟨rfl, rfl⟩

theorem leads_enterAll (outer : List Container) (s : List Char) :
    Leads s (enterAll outer s).2.rest :=
  leads_matching ⟨s, 0, 0⟩ outer

theorem enterAll_of_lists {outer : List Container} (lists : holdsLines outer = false)
    (s : List Char) : enterAll outer s = (true, ⟨s, 0, 0⟩) := by
  have all : matching ⟨s, 0, 0⟩ outer = (outer.length, ⟨s, 0, 0⟩) := by
    induction outer with
    | nil => rfl
    | cons container inner ih =>
      cases container with
      | list mark tight =>
        rw [matching]
        simp only [Container.enter?, ih (by simpa [holdsLines, Container.isList] using lists)]
        rfl
      | quote => simp [holdsLines, Container.isList] at lists
      | item n => simp [holdsLines, Container.isList] at lists
  rw [enterAll, all]
  simp

theorem enterAll_of_startsFlush {s : List Char} {outer : List Container} (flush : startsFlush s)
    (indented : Indented outer) : enterAll outer s = (!holdsLines outer, ⟨s, 0, 0⟩) := by
  cases lists : holdsLines outer with
  | false => exact enterAll_of_lists lists s
  | true =>
    obtain ⟨stays, flat⟩ := matching_of_startsFlush flush indented
    have some : (matching ⟨s, 0, 0⟩ outer).1 ≠ outer.length := by
      intro all
      rw [all, List.take_length, lists] at flat
      cases flat
    simp only [enterAll, stays, beq_false_of_ne some, Bool.not_true]

/-- A line that belongs to a quote or an item does not start flush. -/
theorem not_startsFlush_of_enterAll {s : List Char} {outer : List Container}
    (indented : Indented outer) (held : holdsLines outer) (entered : (enterAll outer s).1) :
    startsFlush s = false := by
  by_contra flush
  rw [enterAll_of_startsFlush (by simpa using flush) indented, held] at entered
  cases entered

/-! ### Thematic breaks -/

theorem head_of_afterBreak? {s next : List Char} (line : afterBreak? s = some next) :
    ∃ mark rest, s = mark :: rest ∧ (mark = '*' ∨ mark = '-' ∨ mark = '_') := by
  unfold afterBreak? at line
  split at line
  · cases line
  next mark rest =>
    split at line
    next kind => exact ⟨mark, rest, rfl, by simpa [or_assoc] using kind⟩
    next => cases line

theorem dropWhile_afterQuoteMark? {c d : Cursor} (found : afterQuoteMark? c = some d) :
    (c.rest.dropWhile isTabOrSpace).head? = some '>' := by
  obtain ⟨e, mark, -⟩ := Option.map_eq_some_iff.mp found
  unfold Cursor.char? at mark
  split at mark
  · cases mark
  next first rest text =>
    split at mark
    next quote => rw [text, ← quote]; rfl
    next => cases mark

theorem dropWhile_matching {c : Cursor} (other : (c.rest.dropWhile isTabOrSpace).head? ≠ some '>')
    (outer : List Container) :
    (matching c outer).2.rest.dropWhile isTabOrSpace = c.rest.dropWhile isTabOrSpace := by
  induction outer generalizing c with
  | nil => rfl
  | cons container inner ih =>
    rw [matching]
    cases entered : container.enter? c with
    | none => rfl
    | some d =>
      have same : d.rest.dropWhile isTabOrSpace = c.rest.dropWhile isTabOrSpace := by
        cases container with
        | list mark tight =>
          cases entered
          rfl
        | quote =>
          have quoted := dropWhile_afterQuoteMark? entered
          rw [Cursor.skip, Cursor.dropWhile_use] at quoted
          exact absurd quoted other
        | item indent =>
          have used := Cursor.dropWhile_use indent c
          simp only [Container.enter?] at entered
          split at entered
          next e here =>
            cases entered
            rwa [here] at used
          next e _ here =>
            split at entered
            · cases entered
              rwa [here] at used
            · cases entered
      exact (ih (same ▸ other)).trans same

theorem itemStart?_of_afterBreak? {c : Cursor} {next : List Char}
    (line : afterBreak? c.rest = some next) (outerIndent : Nat) : itemStart? outerIndent c = none := by
  obtain ⟨mark, rest, text, kind⟩ := head_of_afterBreak? line
  rw [itemStart?, line, text]
  rcases kind with rfl | rfl | rfl <;> rfl

theorem afterQuoteMark?_of_afterBreak? {c : Cursor} {next : List Char}
    (line : afterBreak? c.rest = some next) : afterQuoteMark? c = none := by
  obtain ⟨mark, rest, text, kind⟩ := head_of_afterBreak? line
  rw [afterQuoteMark?, Cursor.char?, text]
  rcases kind with rfl | rfl | rfl <;> rfl

end CatalogueViewer.Markdown
