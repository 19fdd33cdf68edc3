import CatalogueViewer.Proofs.Diagram.LineByLine

/-!
# Sources made of sources

A source that is rewritten once more loses a carriage return before each line feed and nothing else:
`rewritten_twice`.  So it stays the same where no line feed follows a carriage return.
-/

namespace CatalogueViewer.Diagram

open Text GroupHeader

theorem unifyBreaks_unify {text : List Char} (none : ¬ ['\r', '\r', '\n'] <:+: text) :
    unifyBreaks (unify text) = unify text := by
  rw [unifyBreaks_eq_self_iff]
  exact not_infix_unifyBreaks fun inside => none (inside.trans (trim_isInfix text))

namespace QuotesTitles

variable {f : List Char → List Char} {line s : List Char} {c : Char}

/-! ### The ends of a rewritten text -/

theorem nil (quotes : QuotesTitles f) : f [] = [] := by
  apply quotes.other
  intro h is
  have whole := is.line_eq
  simp [keyword_eq] at whole

theorem head?_line (quotes : QuotesTitles f) (start : line.head? = some c)
    (visible : isBlank c = false) : (f line).head? = some c := by
  rcases quotes.changes line with same | ⟨u, rfl, changed⟩
  · rwa [same]
  · rw [changed, UnquotedHeader.head?_quoted start visible]

theorem getLast?_line (quotes : QuotesTitles f) (last : line.getLast? = some c)
    (visible : isBlank c = false) : ∃ d, (f line).getLast? = some d ∧ isBlank d = false := by
  rcases quotes.changes line with same | ⟨u, rfl, changed⟩
  · exact ⟨c, by rwa [same], visible⟩
  · rw [changed]
    rcases u.getLast?_quoted with quote | still
    · exact ⟨'"', quote, rfl⟩
    · exact ⟨c, by rwa [still], visible⟩

theorem head?_mapBreaks (quotes : QuotesTitles f) (start : s.head? = some c)
    (visible : isBlank c = false) : (mapBreaks f s).head? = some c := by
  rcases inLine_or_feed s with inLine | ⟨line, rest, inLine, rfl⟩
  · rw [mapBreaks_of_inLine f inLine]
    exact quotes.head?_line start visible
  · cases line with
    | nil =>
      cases start
      cases visible
    | cons d more =>
      cases start
      rw [mapBreaks_append_feed f inLine, List.head?_append, quotes.head?_line rfl visible,
        Option.some_or]

theorem getLast?_mapBreaks (quotes : QuotesTitles f) (last : s.getLast? = some c)
    (visible : isBlank c = false) :
    ∃ d, (mapBreaks f s).getLast? = some d ∧ isBlank d = false := by
  induction s using lineInduction with
  | inLine line inLine =>
    rw [mapBreaks_of_inLine f inLine]
    exact quotes.getLast?_line last visible
  | feed line rest inLine ih =>
    rw [mapBreaks_append_feed f inLine]
    cases rest with
    | nil =>
      rw [List.getLast?_concat] at last
      cases last
      cases visible
    | cons e rest =>
      have later : (e :: rest).getLast? = some c := by
        simpa [List.getLast?_append, List.getLast?_cons] using last
      obtain ⟨d, still, seen⟩ := ih later
      exact ⟨d, by simp [List.getLast?_append, List.getLast?_cons, still], seen⟩

theorem isTrimmed_mapBreaks (quotes : QuotesTitles f) (trimmed : IsTrimmed s) :
    IsTrimmed (mapBreaks f s) := by
  cases s with
  | nil =>
    rw [mapBreaks_of_inLine f List.not_mem_nil, quotes.nil]
    exact trimmed
  | cons c more =>
    obtain ⟨d, last⟩ := Option.ne_none_iff_exists'.mp
      (mt List.getLast?_eq_none_iff.mp (List.cons_ne_nil c more))
    have visible := trimmed.start c rfl
    obtain ⟨e, stop, seen⟩ := quotes.getLast?_mapBreaks last (trimmed.stop d last)
    constructor
    · rw [quotes.head?_mapBreaks rfl visible]
      simpa using visible
    · rw [stop]
      simpa using seen

theorem isTrimmed_mapLines (quotes : QuotesTitles f) (text : List Char) :
    IsTrimmed (mapLines f text) :=
  quotes.isTrimmed_mapBreaks (isTrimmed_trim text).unifyBreaks

/-! ### A second pass -/

/-- A rewritten text has nothing left to trim, whatever it goes through next. -/
theorem mapLines_mapLines (quotes : QuotesTitles f) (g : List Char → List Char)
    (text : List Char) :
    mapLines g (mapLines f text) = mapBreaks g (unifyBreaks (mapLines f text)) := by
  rw [mapLines, unify, (quotes.isTrimmed_mapLines text).trim_eq, mapBreaks]

theorem dropReturn_settled (quotes : QuotesTitles f) (settled : f line = line) :
    f (dropReturn line) = dropReturn line := by
  by_cases returns : line.getLast? = some '\r'
  · obtain ⟨before, rfl⟩ := List.getLast?_eq_some_iff.mp returns
    rw [dropReturn_append_return]
    by_contra changed
    exact quotes.returns before changed settled
  · rw [dropReturn_eq_self_iff.mpr returns, settled]

/-- A second pass unifies the line ends once more. -/
theorem mapLines_mapLines_self (quotes : QuotesTitles f) (text : List Char) :
    mapLines f (mapLines f text) = unifyBreaks (mapLines f text) := by
  have pieces : splitBreaks (mapLines f text) = (splitBreaks (unify text)).map f :=
    splitBreaks_mapBreaks (fun _ => quotes.inLine) (unify text)
  have settled : ∀ line ∈ dropReturns ((splitBreaks (unify text)).map f), f line = line := by
    intro line member
    -- It comes from the first pass, perhaps with a return that is gone now.
    obtain ⟨piece, inside, same⟩ := mem_dropReturns member
    obtain ⟨before, -, rfl⟩ := List.mem_map.mp inside
    rcases same with rfl | rfl
    · exact quotes.again before
    · exact quotes.dropReturn_settled (quotes.again before)
  calc mapLines f (mapLines f text)
      = joinBreaks ((splitBreaks (unifyBreaks (mapLines f text))).map f) :=
        quotes.mapLines_mapLines f text
    _ = joinBreaks ((dropReturns ((splitBreaks (unify text)).map f)).map f) := by
        rw [splitBreaks_unifyBreaks, pieces]
    _ = joinBreaks (dropReturns ((splitBreaks (unify text)).map f)) := by
        rw [List.map_congr_left settled, List.map_id']
    _ = joinBreaks (splitBreaks (unifyBreaks (mapLines f text))) := by
        rw [splitBreaks_unifyBreaks, pieces]
    _ = unifyBreaks (mapLines f text) := joinBreaks_splitBreaks _

/-- No line of the text ends with a carriage return that its line feed does not take away. -/
theorem dropReturns_map (quotes : QuotesTitles f) {pieces : List (List Char)}
    (none : dropReturns pieces = pieces) : dropReturns (pieces.map f) = pieces.map f := by
  induction pieces with
  | nil => rfl
  | cons line others ih =>
    cases others with
    | nil => rfl
    | cons next others =>
      obtain ⟨here, later⟩ := List.cons.inj none
      rw [dropReturn_eq_self_iff] at here
      have still : (f line).getLast? ≠ some '\r' := by
        rcases quotes.changes line with same | ⟨u, rfl, changed⟩
        · rwa [same]
        · rw [changed]
          rcases u.getLast?_quoted with quote | last
          · simp [quote]
          · rwa [last]
      have rest := ih later
      rw [List.map_cons] at rest
      rw [List.map_cons, List.map_cons, dropReturns, dropReturn_eq_self_iff.mpr still, rest]

theorem unifyBreaks_mapLines (quotes : QuotesTitles f) {text : List Char}
    (none : ¬ ['\r', '\r', '\n'] <:+: text) :
    unifyBreaks (mapLines f text) = mapLines f text := by
  have pieces : splitBreaks (mapLines f text) = (splitBreaks (unify text)).map f :=
    splitBreaks_mapBreaks (fun _ => quotes.inLine) (unify text)
  have ends := splitBreaks_unifyBreaks (unify text)
  rw [unifyBreaks_unify none] at ends
  calc unifyBreaks (mapLines f text)
      = joinBreaks (dropReturns ((splitBreaks (unify text)).map f)) := by
        rw [← pieces, ← splitBreaks_unifyBreaks, joinBreaks_splitBreaks]
    _ = mapLines f text := by rw [quotes.dropReturns_map ends.symm, mapLines]

end QuotesTitles

/-- What a second pass makes of a text. -/
structure RewritesTwice (whole : List Char → List Char) (text : List Char) : Prop where
  unifies : whole (whole text) = unifyBreaks (whole text)
  settled_iff : whole (whole text) = whole text ↔ ¬ ['\r', '\n'] <:+: whole text
  settled : ¬ ['\r', '\r', '\n'] <:+: text → whole (whole text) = whole text

theorem QuotesTitles.rewritesTwice {whole f : List Char → List Char} (quotes : QuotesTitles f)
    (eq : ∀ text, whole text = mapLines f text) (text : List Char) : RewritesTwice whole text := by
  have unifies : whole (whole text) = unifyBreaks (whole text) := by
    rw [eq text, eq, quotes.mapLines_mapLines_self]
  refine ⟨unifies, ?_, fun none => ?_⟩
  · rw [unifies, unifyBreaks_eq_self_iff]
  · rw [unifies, eq, quotes.unifyBreaks_mapLines none]

/-- A second pass changes nothing but line ends, and it takes two carriage returns before one line
feed in the text for any of them to change.  Where a second attempt follows the first one it changes
the line ends just so before it rewrites the lines. -/
theorem rewritten_twice (text : List Char) :
    RewritesTwice normalize text ∧ RewritesTwice recover text ∧
      recover (normalize text) = mapBreaks forceQuote (unifyBreaks (normalize text)) := by
  refine ⟨quotesTitles_quoteIfNeeded.rewritesTwice normalize_eq text,
    quotesTitles_forceQuote.rewritesTwice recover_eq text, ?_⟩
  rw [recover_eq, normalize_eq, quotesTitles_quoteIfNeeded.mapLines_mapLines]

/-- Neither source of this text is left alone by a second pass. -/
theorem not_settled_returns :
    normalize (normalize "a\r\r\nb".toList) ≠ normalize "a\r\r\nb".toList ∧
      recover (recover "a\r\r\nb".toList) ≠ recover "a\r\r\nb".toList := by decide

end CatalogueViewer.Diagram
