import CatalogueViewer.Proofs.Markdown.Passing

/-!
# Two readers of code fences

The outline scans a document line by line, the block structure knows the containers.  On a regular
document both see the same fences open and close.
-/

namespace CatalogueViewer.Markdown

open Text

/-! ### Runs of one character -/

section

variable {a : Char} {rest : List Char}

theorem takeWhile_run (n : Nat) (other : rest.head? ≠ some a) :
    (List.replicate n a ++ rest).takeWhile (· == a) = List.replicate n a := by
  rw [List.takeWhile_append_of_pos (by simp)]
  cases rest with
  | nil => simp
  | cons b rest =>
    have differs : b ≠ a := by simpa using other
    simp [differs]

theorem dropWhile_run (n : Nat) (other : rest.head? ≠ some a) :
    (List.replicate n a ++ rest).dropWhile (· == a) = rest := by
  rw [List.dropWhile_append_of_pos (by simp)]
  cases rest with
  | nil => simp
  | cons b rest =>
    have differs : b ≠ a := by simpa using other
    simp [differs]

theorem run_eq_cons (a : Char) {n : Nat} (some : 0 < n) (rest : List Char) :
    ∃ more, List.replicate n a ++ rest = a :: more := by
  obtain ⟨m, rfl⟩ : ∃ m, n = m + 1 := ⟨n - 1, by omega⟩
  exact ⟨List.replicate m a ++ rest, rfl⟩

theorem exists_run (a : Char) (l : List Char) :
    ∃ n rest, l = List.replicate n a ++ rest ∧ rest.head? ≠ some a := by
  induction l with
  | nil => exact ⟨0, [], rfl, by simp⟩
  | cons b l ih =>
    obtain ⟨n, rest, split, other⟩ := ih
    by_cases same : b = a
    · exact ⟨n + 1, rest, by rw [same, split]; rfl, other⟩
    · exact ⟨0, b :: l, rfl, by simpa using same⟩

end

/-! ### The shape of a fence -/

def FenceMark.Proper (fence : FenceMark) : Prop :=
  (fence.mark = '\x60' ∨ fence.mark = '~') ∧ 3 ≤ fence.count

section

variable {fence : FenceMark} {s rest : List Char}

theorem FenceMark.Proper.count_pos (proper : fence.Proper) : 0 < fence.count :=
  Nat.zero_lt_of_lt proper.2

theorem FenceMark.Proper.mark_ne (proper : fence.Proper) :
    fence.mark ≠ ' ' ∧ isReturn fence.mark = false ∧ isBlank fence.mark = false := by
  rcases proper.1 with mark | mark <;> rw [mark] <;> decide

theorem fenceStart?_eq_some (start : fenceStart? s = some fence) :
    fence.Proper ∧ ∃ rest, s = List.replicate fence.count fence.mark ++ rest ∧
      rest.head? ≠ some fence.mark := by
  unfold fenceStart? at start
  split at start
  · cases start
  next mark tail =>
    obtain ⟨n, rest, split, other⟩ := exists_run mark (mark :: tail)
    rw [split, takeWhile_run n other, List.length_replicate] at start
    dsimp only at start
    split at start
    next fits =>
      split at start <;> cases start
      have fits : (mark = '\x60' ∨ mark = '~') ∧ 3 ≤ n := by simpa using fits
      exact ⟨fits, rest, split, other⟩
    next => cases start

theorem fenceStart?_run (proper : fence.Proper) (other : rest.head? ≠ some fence.mark)
    (info : fence.mark = '~' ∨ '\x60' ∉ takeLine rest) :
    fenceStart? (List.replicate fence.count fence.mark ++ rest) = some fence := by
  obtain ⟨more, first⟩ := run_eq_cons fence.mark proper.count_pos rest
  have kind : (fence.mark == '\x60' || fence.mark == '~') = true := by simpa using proper.1
  have plain : (fence.mark == '\x60' && (takeLine rest).contains '\x60') = false := by
    rcases info with tilde | plain
    · rw [tilde]
      rfl
    · simp [plain]
  have run := takeWhile_run fence.count other
  have drop := dropWhile_run fence.count other
  rw [← drop_length_takeWhile] at drop
  rw [first] at run drop ⊢
  rw [fenceStart?]
  rw [drop, run, List.length_replicate, kind, plain]
  simp [proper.2]

theorem fenceOf?_eq_some {line : List Char} (opens : fenceOf? line = some fence) :
    fence.Proper ∧ ∃ indent rest, indent ≤ 3 ∧
      line = List.replicate indent ' ' ++ (List.replicate fence.count fence.mark ++ rest) ∧
      rest.head? ≠ some fence.mark := by
  obtain ⟨indent, text, rfl, visible⟩ := exists_run ' ' line
  rw [fenceOf?, takeWhile_run indent visible] at opens
  dsimp only at opens
  split at opens
  · cases opens
  next bound =>
    rw [List.length_replicate, List.drop_left' (by simp)] at opens
    split at opens
    · cases opens
    next mark tail =>
      obtain ⟨n, rest, split, other⟩ := exists_run mark (mark :: tail)
      rw [split, takeWhile_run n other, List.length_replicate] at opens
      split at opens <;> cases opens
      next fits =>
      have fits : (mark = '\x60' ∨ mark = '~') ∧ 3 ≤ n := by simpa using fits
      exact ⟨fits, indent, rest, by simpa using bound, by rw [split], other⟩

theorem fenceOf?_run {mark : Char} {count indent : Nat} (proper : FenceMark.Proper ⟨mark, count⟩)
    (bound : indent ≤ 3) (other : rest.head? ≠ some mark) :
    fenceOf? (List.replicate indent ' ' ++ (List.replicate count mark ++ rest)) =
      some ⟨mark, count⟩ := by
  obtain ⟨more, first⟩ := run_eq_cons mark proper.count_pos rest
  have visible : (List.replicate count mark ++ rest).head? ≠ some ' ' := by
    simpa [first] using proper.mark_ne.1
  have kind : (mark == '\x60' || mark == '~') = true := by simpa using proper.1
  have run := takeWhile_run count other
  have enough : 3 ≤ count := proper.2
  rw [fenceOf?, takeWhile_run indent visible]
  dsimp only
  rw [List.length_replicate, if_neg (by omega), List.drop_left' (by simp)]
  rw [first] at run ⊢
  dsimp only
  rw [run, List.length_replicate, kind]
  simp [enough]

/-! ### A fence on its line -/

theorem lineAt_append {marks : List Char} (paired : returnsPaired (marks ++ s))
    (inLine : ∀ c ∈ marks, isReturn c = false) : lineAt (marks ++ s) = marks ++ lineAt s := by
  have paired' := returnsPaired_suffix (List.suffix_append marks s) paired
  rw [lineAt_eq_takeWhile paired, lineAt_eq_takeWhile paired',
    List.takeWhile_append_of_pos (by simpa using inLine)]

theorem lineAt_run {a : Char} {n : Nat} (paired : returnsPaired (List.replicate n a ++ s))
    (inLine : isReturn a = false) : lineAt (List.replicate n a ++ s) = List.replicate n a ++ lineAt s :=
  lineAt_append paired fun c member => by rwa [List.eq_of_mem_replicate member]

theorem head?_of_lineAt {c : Char} (first : (lineAt s).head? = some c) : s.head? = some c := by
  obtain ⟨rest, line⟩ := List.head?_eq_some_iff.mp first
  obtain ⟨after, split⟩ := lineAt_prefix s
  rw [← split, line]
  rfl

theorem head?_lineAt {c : Char} (paired : returnsPaired s) (first : s.head? = some c)
    (inLine : isReturn c = false) : (lineAt s).head? = some c := by
  obtain ⟨rest, rfl⟩ := List.head?_eq_some_iff.mp first
  rw [lineAt_eq_takeWhile paired]
  simp [inLine]

theorem mem_lineAt_of_mem_takeLine {c : Char} (paired : returnsPaired s)
    (member : c ∈ takeLine s) (inLine : isReturn c = false) : c ∈ lineAt s := by
  rw [lineAt_eq_takeWhile paired]
  induction s with
  | nil => cases member
  | cons d s ih =>
    have paired' := returnsPaired_suffix (List.suffix_cons d s) paired
    rw [takeLine] at member
    split at member
    next feed =>
      have same : c = d := by simpa using member
      rw [same, feed] at inLine
      cases inLine
    next other =>
      rcases List.mem_cons.mp member with rfl | later
      · simp [inLine]
      · by_cases ret : d = '\r'
        · obtain ⟨t, rfl⟩ : ∃ t, s = '\n' :: t := by
            cases s <;> simp_all [returnsPaired]
          have same : c = '\n' := by simpa [takeLine] using later
          rw [same] at inLine
          cases inLine
        · have goes : isReturn d = false := by simp [isReturn, ret, other]
          simpa [goes] using .inr (ih paired' later)

/-- A line and what ends it. -/
theorem exists_ending (paired : returnsPaired s) :
    ∃ ending, s = lineAt s ++ ending ∧ atLineEnd ending := by
  refine ⟨s.dropWhile (!isReturn ·), ?_, ?_⟩
  · rw [lineAt_eq_takeWhile paired, List.takeWhile_append_dropWhile]
  · have stops := List.head?_dropWhile_not (!isReturn ·) s
    cases after : s.dropWhile (!isReturn ·) with
    | nil => rfl
    | cons c rest =>
      rw [after] at stops
      have ret : c = '\r' ∨ c = '\n' := by simpa [isReturn, or_iff_not_imp_left] using stops
      unfold atLineEnd lineEnd?
      split <;> simp_all

theorem isReturn_of_atLineEnd {c : Char} (ends : atLineEnd s) (first : s.head? = some c) :
    isReturn c := by
  cases s with
  | nil => cases first
  | cons d s =>
    cases first
    unfold atLineEnd lineEnd? at ends
    split at ends <;> simp_all [isReturn]

end

/-! ### Regular documents -/

/-- A fence starts its line, and no other backtick follows backticks. -/
def opensPlainly (line : List Char) : Bool :=
  match fenceOf? line with
  | none => true
  | some fence =>
    line.head? == some fence.mark &&
      (fence.mark == '~' || !(line.drop fence.count).contains '\x60')

def startsHtml : List Char → Bool
  | '<' :: tail => (Html.closing? tail).isSome || Html.startsElement tail || Html.startsLoneTag tail
  | _ => false

/-- A block of raw HTML can start at the line. -/
def opensHtml (place : List Char) : Bool :=
  let indent := place.takeWhile (· == ' ')
  indent.length ≤ 3 && startsHtml (place.drop indent.length)

/-- Nothing but spaces stands after the marks. -/
def closesPlainly (mark : Char) (line : List Char) : Bool :=
  ((line.dropWhile (· == ' ')).dropWhile (· == mark)).all (· == ' ')

/-- No backslash ends a line right before a fence. -/
def endsPlainly (place : List Char) : Bool :=
  (lineAt place).getLast? != some '\\' || (fenceOf? (lineAt (nextLine place))).isNone

/-- What a regular document asks for at a line before which `fence` is open. -/
def regularAt (fence : Option FenceMark) (place : List Char) : Bool :=
  match fence with
  | none =>
    opensPlainly (lineAt place) && !opensHtml place && fillsItems place && endsPlainly place
  | some opened => !closes (lineAt place) opened || closesPlainly opened.mark (lineAt place)

/-- The fence that is open after a line. -/
def fenceAfter (fence : Option FenceMark) (line : List Char) : Option FenceMark :=
  match fence with
  | none => fenceOf? line
  | some opened => if closes line opened then none else some opened

def regularFrom (fence : Option FenceMark) : List (List Char) → Bool
  | [] => true
  | place :: rest => regularAt fence place && regularFrom (fenceAfter fence (lineAt place)) rest

section

variable {fence : Option FenceMark} {s t : List Char}

theorem regularFrom_places (some : s ≠ []) :
    regularFrom fence (places s) =
      (regularAt fence s && regularFrom (fenceAfter fence (lineAt s)) (places (nextLine s))) := by
  rw [places_eq some, regularFrom]

theorem headings_lines_plain (text : s ≠ []) (plain : fenceOf? (lineAt s) = none) :
    headings none (lines s) =
      ([s].filterMap fun p => headingOf? (lineAt p)) ++ headings none (lines (nextLine s)) := by
  rw [lines_eq text, headings, plain, List.filterMap_cons, List.filterMap_nil]
  cases headingOf? (lineAt s) <;> rfl

theorem headings_lines_open {opened : FenceMark} (text : s ≠ [])
    (opens : fenceOf? (lineAt s) = some opened) :
    headings none (lines s) = headings (some opened) (lines (nextLine s)) := by
  rw [lines_eq text, headings, opens]

theorem headings_lines_inside (opened : FenceMark) (text : s ≠ []) :
    headings (some opened) (lines s) =
      headings (fenceAfter (some opened) (lineAt s)) (lines (nextLine s)) := by
  rw [lines_eq text, headings, fenceAfter]

/-- The fence that a regular line opens for the scan is one for the block structure. -/
theorem fenceStart?_of_fenceOf? {opened : FenceMark} (paired : returnsPaired s)
    (plain : opensPlainly (lineAt s)) (opens : fenceOf? (lineAt s) = some opened) :
    fenceStart? s = some opened := by
  obtain ⟨proper, indent, info, bound, line, other⟩ := fenceOf?_eq_some opens
  obtain ⟨space, inLine, -⟩ := proper.mark_ne
  obtain ⟨flush, single⟩ : (lineAt s).head? = some opened.mark ∧
      (opened.mark = '~' ∨ '\x60' ∉ (lineAt s).drop opened.count) := by
    simpa [opensPlainly, opens] using plain
  have none : indent = 0 := by
    cases indent with
    | zero => rfl
    | succ n =>
      rw [line, List.replicate_succ] at flush
      exact absurd (Option.some.inj flush).symm space
  rw [none, List.replicate_zero, List.nil_append] at line
  obtain ⟨tail, split⟩ := lineAt_prefix s
  rw [line, List.append_assoc] at split
  rw [line, List.drop_left' (by simp)] at single
  have rest : lineAt (info ++ tail) = info := by
    rw [← split] at paired line
    rw [lineAt_run paired inLine] at line
    exact List.append_cancel_left line
  have paired' : returnsPaired (info ++ tail) :=
    returnsPaired_suffix ⟨List.replicate opened.count opened.mark, split⟩ paired
  rw [← split]
  refine fenceStart?_run proper ?_ (single.imp_right fun single member => ?_)
  · intro first
    exact other (rest ▸ head?_lineAt paired' first inLine)
  · exact single (rest ▸ mem_lineAt_of_mem_takeLine paired' member rfl)

/-- The fence that the block structure finds after little indentation is one for the scan. -/
theorem fenceOf?_of_fenceStart? {opened : FenceMark} {indent : Nat} (bound : indent ≤ 3)
    (paired : returnsPaired (List.replicate indent ' ' ++ t)) (start : fenceStart? t = some opened) :
    fenceOf? (lineAt (List.replicate indent ' ' ++ t)) = some opened := by
  obtain ⟨proper, rest, rfl, other⟩ := fenceStart?_eq_some start
  have paired' := returnsPaired_suffix (List.suffix_append _ _) paired
  rw [lineAt_run paired rfl, lineAt_run paired' proper.mark_ne.2.1]
  exact fenceOf?_run proper bound fun first => other (head?_of_lineAt first)

/-! ### Closing fences -/

/-- The fence is closed by a line, for the block structure. -/
def closing? (opened : FenceMark) (s : List Char) : Option (List Char) :=
  match Cursor.use 4 ⟨s, 0, 0⟩ with
  | (0, _) => none
  | (_, d) => afterClosingFence? opened d.rest

theorem afterClosingFence?_eq_some {opened : FenceMark} {stop : List Char}
    (found : afterClosingFence? opened s = some stop) :
    atLineEnd stop ∧ (s = [] ∧ stop = [] ∨
      ∃ count spaces, opened.count ≤ count ∧
        s = List.replicate count opened.mark ++ (List.replicate spaces ' ' ++ stop)) := by
  obtain ⟨count, rest, marks, other⟩ := exists_run opened.mark s
  obtain ⟨spaces, tail, rfl, visible⟩ := exists_run ' ' rest
  unfold afterClosingFence? at found
  split at found
  next none =>
    cases found
    exact ⟨rfl, .inl ⟨by simpa using none, rfl⟩⟩
  next =>
    rw [marks, takeWhile_run count other, List.length_replicate] at found
    dsimp only at found
    split at found
    · cases found
    next enough =>
      rw [List.drop_left' (by simp), dropWhile_run spaces visible] at found
      split at found <;> cases found
      next ends => exact ⟨ends, .inr ⟨count, spaces, by omega, marks⟩⟩

theorem all_trim_run {mark : Char} (visible : isBlank mark = false) (before after : Nat) {count : Nat}
    (some : 0 < count) :
    (trim (List.replicate before ' ' ++ (List.replicate count mark ++ List.replicate after ' '))).all
      (· == mark) := by
  obtain ⟨n, rfl⟩ : ∃ n, count = n + 1 := ⟨count - 1, by omega⟩
  have start : trimStart (List.replicate before ' ' ++
      (List.replicate (n + 1) mark ++ List.replicate after ' ')) =
      List.replicate (n + 1) mark ++ List.replicate after ' ' := by
    rw [trimStart, List.dropWhile_append_of_pos (by simp [isBlank]), List.replicate_succ,
      List.cons_append, List.dropWhile_cons_of_neg (by simp [visible])]
  have trimmed : trimEnd (List.replicate (n + 1) mark ++ List.replicate after ' ') =
      List.replicate (n + 1) mark := by
    rw [trimEnd, dropWhileEnd, List.reverse_append, List.reverse_replicate, List.reverse_replicate,
      List.dropWhile_append_of_pos (by simp [isBlank]), List.replicate_succ,
      List.dropWhile_cons_of_neg (by simp [visible]), ← List.replicate_succ, List.reverse_replicate]
  rw [trim, start, trimmed]
  simp

/-- The scan takes marks with spaces around them for the end of a fence. -/
theorem closes_run {opened : FenceMark} {indent count spaces : Nat} (proper : opened.Proper)
    (low : indent ≤ 3) (enough : opened.count ≤ count) :
    closes (List.replicate indent ' ' ++
      (List.replicate count opened.mark ++ List.replicate spaces ' ')) opened := by
  obtain ⟨space, -, visible⟩ := proper.mark_ne
  have long : 3 ≤ count := Nat.le_trans proper.2 enough
  have other : (List.replicate spaces ' ').head? ≠ some opened.mark := by
    cases spaces <;> simp [List.replicate_succ, space.symm]
  have proper' : FenceMark.Proper ⟨opened.mark, count⟩ := ⟨proper.1, long⟩
  have opens := fenceOf?_run proper' low other
  have all := all_trim_run visible indent spaces (Nat.zero_lt_of_lt long)
  simp only [closes, opens, all, enough, beq_self_eq_true, decide_true, Bool.and_self]

/-- A line that closes a fence for the block structure does so for the scan, unless the text ends
with it. -/
theorem closing?_eq_some {opened : FenceMark} {stop : List Char} (paired : returnsPaired s)
    (proper : opened.Proper) (found : closing? opened s = some stop) :
    atLineEnd stop ∧ stop <:+ s ∧ nextLine stop = nextLine s ∧ (s ≠ [] → stop.length < s.length) ∧
      (closes (lineAt s) opened ∨ nextLine s = []) := by
  unfold closing? at found
  split at found
  · cases found
  next k d missing used =>
    have used : Cursor.useRest 4 0 s = (k, d) := used
    have some : k ≠ 0 := missing
    obtain ⟨indent, split, bound, -⟩ := Cursor.useRest_spaces (Nat.le_refl 4) used some
    obtain ⟨ends, ⟨none, rfl⟩ | ⟨count, spaces, enough, marks⟩⟩ := afterClosingFence?_eq_some found
    · have last : nextLine s = [] := by
        rw [split, none, nextLine_append (by simp)]
        rfl
      exact ⟨ends, List.nil_suffix, by rw [last]; rfl, List.length_pos_iff.mpr, .inr last⟩
    · have closed := @closes_run opened indent count spaces proper (by omega) enough
      have longer := proper.count_pos
      have inside : ∀ c ∈ List.replicate indent ' ' ++
          (List.replicate count opened.mark ++ List.replicate spaces ' '), isReturn c = false := by
        intro c member
        simp only [List.mem_append, List.mem_replicate] at member
        rcases member with ⟨-, rfl⟩ | ⟨-, rfl⟩ | ⟨-, rfl⟩
        · rfl
        · exact proper.mark_ne.2.1
        · rfl
      have text : s = (List.replicate indent ' ' ++
          (List.replicate count opened.mark ++ List.replicate spaces ' ')) ++ stop := by
        rw [split, marks, List.append_assoc, List.append_assoc]
      have long : 0 < (List.replicate indent ' ' ++
          (List.replicate count opened.mark ++ List.replicate spaces ' ')).length := by
        simp only [List.length_append, List.length_replicate]
        omega
      generalize List.replicate indent ' ' ++
        (List.replicate count opened.mark ++ List.replicate spaces ' ') = line at closed inside text long
      subst text
      have feed : '\n' ∉ line := fun member => absurd (inside _ member) (by decide)
      obtain ⟨next, after⟩ := Option.isSome_iff_exists.mp ends
      have last := (lineEnd?_eq_some (returnsPaired_suffix (List.suffix_append line stop) paired) after).2
      have whole : lineAt (line ++ stop) = line := by
        rw [lineAt_append paired inside, last, List.append_nil]
      refine ⟨ends, List.suffix_append line stop, (nextLine_append feed stop).symm, fun _ => ?_,
        .inl (whole.symm ▸ closed)⟩
      rw [List.length_append]
      omega

theorem closing?_run {opened : FenceMark} {indent count spaces : Nat} {stop : List Char}
    (proper : opened.Proper) (low : indent ≤ 3) (enough : opened.count ≤ count)
    (ends : atLineEnd stop) :
    closing? opened (List.replicate indent ' ' ++
      (List.replicate count opened.mark ++ (List.replicate spaces ' ' ++ stop))) = some stop := by
  obtain ⟨space, inLine, -⟩ := proper.mark_ne
  have visible : stop.head? ≠ some ' ' := fun head => by
    cases isReturn_of_atLineEnd ends head
  have other : (List.replicate spaces ' ' ++ stop).head? ≠ some opened.mark := by
    cases spaces with
    | zero =>
      intro head
      rw [isReturn_of_atLineEnd ends head] at inLine
      cases inLine
    | succ n => simp [List.replicate_succ, space.symm]
  obtain ⟨more, first⟩ := run_eq_cons opened.mark (Nat.lt_of_lt_of_le proper.count_pos enough)
    (List.replicate spaces ' ' ++ stop)
  have marked : ∀ c, (List.replicate count opened.mark ++ (List.replicate spaces ' ' ++ stop)).head? =
      some c → isTabOrSpace c = false := by
    intro c head
    rw [first] at head
    cases head
    rcases proper.1 with mark | mark <;> rw [mark] <;> rfl
  have used : Cursor.use 4 ⟨List.replicate indent ' ' ++
      (List.replicate count opened.mark ++ (List.replicate spaces ' ' ++ stop)), 0, 0⟩ =
      (3 - indent + 1, ⟨List.replicate count opened.mark ++ (List.replicate spaces ' ' ++ stop),
        0 + indent, 0⟩) := by
    rw [show 3 - indent + 1 = 4 - indent by omega]
    exact Cursor.useRest_replicate (n := 4) (Nat.le_succ_of_le low) marked
  have run := takeWhile_run count other
  have drop := dropWhile_run count other
  rw [← drop_length_takeWhile, run] at drop
  rw [List.length_replicate] at drop
  rw [closing?, used]
  change afterClosingFence? opened (List.replicate count opened.mark ++ _) = _
  rw [afterClosingFence?, if_neg (by simp [first]), run, List.length_replicate,
    if_neg (Nat.not_lt.mpr enough), drop, dropWhile_run spaces visible, if_pos ends]

/-- A regular line that closes a fence for the scan does so for the block structure. -/
theorem closing?_of_closes {opened : FenceMark} (paired : returnsPaired s) (proper : opened.Proper)
    (closed : closes (lineAt s) opened) (plain : closesPlainly opened.mark (lineAt s)) :
    (closing? opened s).isSome := by
  unfold closes at closed
  split at closed
  · cases closed
  next fence opens =>
    obtain ⟨⟨same, enough⟩, -⟩ : (fence.mark = opened.mark ∧ opened.count ≤ fence.count) ∧ _ := by
      simpa using closed
    obtain ⟨-, indent, rest, low, line, other⟩ := fenceOf?_eq_some opens
    rw [same] at line other
    obtain ⟨more, first⟩ := run_eq_cons opened.mark (Nat.lt_of_lt_of_le proper.count_pos enough) rest
    have marked : (List.replicate fence.count opened.mark ++ rest).head? ≠ some ' ' := by
      simpa [first] using proper.mark_ne.1
    have blanks : ∀ c ∈ rest, c = ' ' := by
      rw [closesPlainly, line, dropWhile_run indent marked, dropWhile_run fence.count other] at plain
      simpa using plain
    obtain ⟨ending, split, ends⟩ := exists_ending paired
    rw [line, List.eq_replicate_of_mem blanks, List.append_assoc, List.append_assoc] at split
    rw [split, closing?_run proper low enough ends]
    rfl

end

end CatalogueViewer.Markdown
