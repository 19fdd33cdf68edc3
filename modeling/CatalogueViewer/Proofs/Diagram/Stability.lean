import CatalogueViewer.Proofs.Diagram.Detection
import CatalogueViewer.Proofs.Diagram.Repeating
import CatalogueViewer.Proofs.Text.FirstLine

/-!
# Sources that stay diagrams

Quoting the titles of a diagram leaves a diagram of the same kind: its first line names the kind and
is no group header, and a header with a quoted title is structure enough.  So whoever looks at a
source again finds the kind that was found in the text: `stable_of_prepare`.
-/

namespace CatalogueViewer.Diagram

open Text Pattern GroupHeader

variable {kind : Kind} {line more others s text : List Char}

/-! ### The kind of a text -/

theorem endsHeader_append (endsMore : EndsLine more) (endsOthers : EndsLine others)
    (goesOn : more ≠ [] → others ≠ []) (ending : endsHeader (line ++ more) = true) :
    endsHeader (line ++ others) = true := by
  cases line with
  | nil => rcases endsOthers with rfl | ⟨rest, rfl⟩ <;> rfl
  | cons c line =>
    by_cases carriage : c = '\r'
    · subst carriage
      cases line with
      | nil =>
        rcases endsMore with rfl | ⟨rest, rfl⟩
        · cases ending
        · obtain ⟨rest, rfl⟩ := endsOthers.resolve_left (goesOn (List.cons_ne_nil _ _))
          rfl
      | cons d line =>
        by_cases feed : d = '\n'
        · subst feed
          rfl
        · rw [List.cons_append, List.cons_append, endsHeader_return feed] at ending
          cases ending
    · rw [List.cons_append] at ending ⊢
      rwa [endsHeader_cons carriage (line ++ others) (line ++ more)]

/-- A keyword is found in the first line. -/
theorem startsText_keyword_append (endsMore : EndsLine more) (endsOthers : EndsLine others)
    (goesOn : more ≠ [] → others ≠ []) (starts : kind.keyword.startsText (line ++ more) = true) :
    kind.keyword.startsText (line ++ others) = true := by
  cases kind with
  | flowchart =>
    rw [startsText_flowchart_iff] at starts ⊢
    obtain ⟨e, stem, ending⟩ := starts
    have inLine : headerStem.staysInLine = true := by decide
    obtain ⟨b, rest, rfl, there⟩ := mem_ends_append inLine endsMore endsOthers stem
    rw [matchesAt_headerEnd] at ending
    refine ⟨⟨b, rest ++ others⟩, there, ?_⟩
    rw [matchesAt_headerEnd]
    exact endsHeader_append endsMore endsOthers goesOn ending
  | _ => exact startsText_append (by decide) endsMore endsOthers starts

theorem Kind.detect?_eq_some_iff (trimmed : trimStart text = text) :
    Kind.detect? text = some kind ↔ kind.keyword.startsText text = true := by
  constructor
  · intro found
    have starts := List.find?_some found
    rwa [trimmed] at starts
  · intro starts
    obtain ⟨other, found⟩ := Option.isSome_iff_exists.mp
      ((Kind.detect?_isSome_iff trimmed).mpr ⟨kind, starts⟩)
    have others := List.find?_some found
    rw [trimmed] at others
    obtain ⟨v, inFirst, first⟩ := exists_word_of_keyword starts
    obtain ⟨w, inSecond, second⟩ := exists_word_of_keyword others
    rw [found, kind_unique inFirst inSecond first second]

theorem prevalidate_eq_ok_kind_iff : prevalidate text = .ok kind ↔
    minLength ≤ text.length ∧ Kind.detect? text = some kind ∧
      (Feature.all.any fun f => f.pattern.occursIn text) = true := by
  fun_cases prevalidate text with
  | case1 short => simp [Nat.not_le.mpr short]
  | case2 long unknown => simp [unknown]
  | case3 long kind known structured => simp [Nat.not_lt.mp long, known, structured]
  | case4 long kind known structured => simp [known, structured]

/-! ### The first line -/

theorem words_no_header : ∀ kind : Kind, ∀ w ∈ kind.words,
    ¬ folded w.toList <+: folded keyword ∧ ¬ folded keyword <+: folded w.toList := by
  intro kind
  cases kind <;> decide

theorem not_isOf_of_startsText (starts : kind.keyword.startsText (line ++ more) = true)
    (visible : ∀ c ∈ line.head?, isBlank c = false) (h : GroupHeader) : ¬ h.IsOf line := by
  intro is
  have flush : h.indent = [] := by
    cases indent : h.indent with
    | nil => rfl
    | cons c rest =>
      have blank := isBlank_of_isTabOrSpace (is.indent c (by simp [indent]))
      rw [visible c (by simp [is.line_eq, indent])] at blank
      cases blank
  obtain ⟨w, ofKind, front⟩ := exists_word_of_keyword starts
  have header : folded keyword <+: folded (line ++ more) := by
    rw [is.line_eq, flush, List.nil_append, List.append_assoc]
    exact (List.prefix_append _ _).map foldLetter
  rcases List.prefix_or_prefix_of_prefix front header with shorter | longer
  · exact (words_no_header kind w ofKind).1 shorter
  · exact (words_no_header kind w ofKind).2 longer

/-! ### Headers with a quoted title -/

theorem mem_spots_append (before : Option Char) (s t : List Char) :
    ⟨s.getLast?.or before, t⟩ ∈ spots before (s ++ t) := by
  induction s generalizing before with
  | nil => cases t <;> exact List.mem_cons_self
  | cons c s ih =>
    have later := ih (some c)
    rw [List.getLast?_cons, Option.some_or]
    refine List.mem_cons_of_mem _ ?_
    cases last : s.getLast? <;> simpa [last] using later

theorem matchesAt_subgraph {before : Option Char} (apart : before.any isWordChar = false)
    (rest : List Char) :
    Feature.subgraph.pattern.matchesAt ⟨before, keyword ++ ' ' :: rest⟩ = true := by
  have starts : Spot.isWordEdge ⟨before, keyword ++ ' ' :: rest⟩ = true := by
    unfold Spot.isWordEdge
    rw [apart]
    rfl
  have reads : ⟨some 'h', ' ' :: rest⟩ ∈ (word "subgraph").ends ⟨before, keyword ++ ' ' :: rest⟩ :=
    List.mem_singleton_self _
  have stops : Spot.isWordEdge ⟨some 'h', ' ' :: rest⟩ = true := rfl
  refine matchesAt_iff.mpr ⟨⟨some 'h', ' ' :: rest⟩, ?_⟩
  refine mem_ends_seq.mpr ⟨_, mem_ends_wordEdge.mpr ⟨starts, rfl⟩, ?_⟩
  refine mem_ends_seq.mpr ⟨_, reads, ?_⟩
  exact mem_ends_seq.mpr ⟨_, mem_ends_wordEdge.mpr ⟨stops, rfl⟩, List.mem_singleton_self _⟩

theorem UnquotedHeader.occursIn_subgraph (u : UnquotedHeader) {before : List Char}
    (fresh : ∀ c ∈ before.getLast?, c = '\n') (after : List Char) :
    Feature.subgraph.pattern.occursIn (before ++ (u.quoted ++ after)) = true := by
  have apart : (before ++ u.indent).getLast?.any isWordChar = false := by
    cases indent : u.indent.getLast? with
    | none =>
      rw [List.getLast?_eq_none_iff.mp indent, List.append_nil]
      cases last : before.getLast? with
      | none => rfl
      | some c =>
        rw [fresh c last]
        rfl
    | some c =>
      rw [List.getLast?_append, indent, Option.some_or]
      have blank := u.inIndent c (List.mem_of_getLast? indent)
      rcases Bool.or_eq_true_iff.mp blank with same | same <;> rw [beq_iff_eq.mp same] <;> rfl
  have split : before ++ (u.quoted ++ after) = (before ++ u.indent) ++ (keyword ++ ' ' ::
      ('"' :: (trim u.title ++ (u.label ++ '"' :: (u.tail ++ after))))) := by
    simp [UnquotedHeader.quoted]
  have place := mem_spots_append none (before ++ u.indent) (keyword ++ ' ' ::
    ('"' :: (trim u.title ++ (u.label ++ '"' :: (u.tail ++ after)))))
  rw [Option.or_none] at place
  rw [split]
  exact List.any_eq_true.mpr ⟨_, place, matchesAt_subgraph apart _⟩

theorem UnquotedHeader.length_quoted (u : UnquotedHeader) : minLength ≤ u.quoted.length := by
  simp only [minLength, quoted, keyword_eq, List.length_append, List.length_cons]
  omega

namespace QuotesTitles

variable {f : List Char → List Char}

/-- A text that changes has a header with a quoted title afterwards. -/
theorem exists_quoted (quotes : QuotesTitles f) (s : List Char) : mapBreaks f s = s ∨
    ∃ before, ∃ u : UnquotedHeader, ∃ after, mapBreaks f s = before ++ (u.quoted ++ after) ∧
      ∀ c ∈ before.getLast?, c = '\n' := by
  induction s using lineInduction with
  | inLine line inLine =>
    rw [mapBreaks_of_inLine f inLine]
    refine (quotes.changes line).imp_right ?_
    rintro ⟨u, -, changed⟩
    exact ⟨[], u, [], by simp [changed], by simp⟩
  | feed line rest inLine ih =>
    rw [mapBreaks_append_feed f inLine]
    rcases quotes.changes line with same | ⟨u, -, changed⟩
    · rw [same]
      rcases ih with settled | ⟨before, u, after, split, fresh⟩
      · exact .inl (by rw [settled])
      · refine .inr ⟨line ++ '\n' :: before, u, after, by simp [split], ?_⟩
        intro c last
        cases before with
        | nil => simpa [eq_comm] using last
        | cons d before =>
          apply fresh c
          simpa [List.getLast?_append, List.getLast?_cons] using last
    · exact .inr ⟨[], u, '\n' :: mapBreaks f rest, by simp [changed], by simp⟩

/-- The first line is left alone, and as many lines follow it. -/
theorem exists_firstLine (quotes : QuotesTitles f)
    (starts : kind.keyword.startsText s = true) (trimmed : IsTrimmed s) :
    ∃ line more others, s = line ++ more ∧ mapBreaks f s = line ++ others ∧ EndsLine more ∧
      EndsLine others ∧ (more ≠ [] → others ≠ []) := by
  rcases inLine_or_feed s with inLine | ⟨line, rest, inLine, rfl⟩
  · rw [← List.append_nil s] at starts
    have settled : f s = s := quotes.other (not_isOf_of_startsText starts trimmed.start)
    refine ⟨s, [], [], by simp, ?_, .inl rfl, .inl rfl, id⟩
    rw [mapBreaks_of_inLine f inLine, settled, List.append_nil]
  · have visible : ∀ c ∈ line.head?, isBlank c = false := by
      intro c first
      exact trimmed.start c (by rw [List.head?_append, first, Option.some_or]; rfl)
    have settled : f line = line := quotes.other (not_isOf_of_startsText starts visible)
    refine ⟨line, '\n' :: rest, '\n' :: mapBreaks f rest, rfl, ?_, .inr ⟨_, rfl⟩, .inr ⟨_, rfl⟩,
      fun _ => List.cons_ne_nil _ _⟩
    rw [mapBreaks_append_feed f inLine, settled]

/-- A diagram is still one of its kind when titles are put in quotes. -/
theorem prevalidate_mapBreaks (quotes : QuotesTitles f) (trimmed : IsTrimmed s)
    (accepted : prevalidate s = .ok kind) : prevalidate (mapBreaks f s) = .ok kind := by
  obtain ⟨long, found, structured⟩ := prevalidate_eq_ok_kind_iff.mp accepted
  have starts := (Kind.detect?_eq_some_iff trimmed.trimStart_eq).mp found
  have still : kind.keyword.startsText (mapBreaks f s) = true := by
    obtain ⟨line, more, others, split, rewritten, endsMore, endsOthers, goesOn⟩ :=
      quotes.exists_firstLine starts trimmed
    rw [split] at starts
    rw [rewritten]
    exact startsText_keyword_append endsMore endsOthers goesOn starts
  have trimmedStart := (quotes.isTrimmed_mapBreaks trimmed).trimStart_eq
  have detected := (Kind.detect?_eq_some_iff trimmedStart).mpr still
  rcases quotes.exists_quoted s with same | ⟨before, u, after, split, fresh⟩
  · rwa [same]
  · refine prevalidate_eq_ok_kind_iff.mpr ⟨?_, detected, ?_⟩
    · have enough := u.length_quoted
      rw [split, List.length_append, List.length_append]
      omega
    · refine List.any_eq_true.mpr ⟨.subgraph, by decide, ?_⟩
      rw [split]
      exact u.occursIn_subgraph fresh after

end QuotesTitles

/-! ### Sources -/

/-- A source that stays as it is, and keeps its kind through a second attempt. -/
structure Stable (diagram : Prepared) : Prop where
  again : prepare diagram.source = .ready diagram
  accepted : prevalidate diagram.source.toList = .ok diagram.kind
  recovered : prevalidate (recover diagram.source.toList) = .ok diagram.kind
  /-- An engine that looks for the kind finds it in either source. -/
  detected : Kind.detect? diagram.source.toList = some diagram.kind
  redetected : Kind.detect? (recover diagram.source.toList) = some diagram.kind

theorem prepare_eq_ready_iff {text : String} {diagram : Prepared} :
    prepare text = .ready diagram ↔ prevalidate (unify text.toList) = .ok diagram.kind ∧
      diagram.source = String.ofList (normalize (unify text.toList)) := by
  obtain ⟨kind, source⟩ := diagram
  unfold prepare
  dsimp only
  split
  · next none =>
    rw [List.isEmpty_iff.mp none]
    exact iff_of_false (fun ready => nomatch ready) (fun fits => nomatch fits.1)
  · split
    · next found fits => simp [fits, eq_comm]
    · next reason fails => simp [fails]

/-- What an engine gets is stable, unless two carriage returns stand before one line feed. -/
theorem stable_of_prepare {text : String} {diagram : Prepared}
    (single : ¬ ['\r', '\r', '\n'] <:+: text.toList) (ready : prepare text = .ready diagram) :
    Stable diagram := by
  obtain ⟨accepted, source⟩ := prepare_eq_ready_iff.mp ready
  have quotes := quotesTitles_quoteIfNeeded
  have trimmed : IsTrimmed (unify text.toList) := (isTrimmed_trim text.toList).unifyBreaks
  have unified : unify (unify text.toList) = unify text.toList := by
    rw [unify, trimmed.trim_eq, unifyBreaks_unify single]
  have chars : diagram.source.toList = mapLines quoteIfNeeded text.toList := by
    rw [source, String.toList_ofList, normalize_eq, mapLines, mapLines, unified]
  have still : unify diagram.source.toList = diagram.source.toList := by
    rw [chars, unify, (quotes.isTrimmed_mapLines _).trim_eq, quotes.unifyBreaks_mapLines single]
  have settled : normalize diagram.source.toList = diagram.source.toList := by
    rw [chars, normalize_eq, quotes.mapLines_mapLines_self, quotes.unifyBreaks_mapLines single]
  have sourceAccepted : prevalidate diagram.source.toList = .ok diagram.kind := by
    rw [chars]
    exact quotes.prevalidate_mapBreaks trimmed accepted
  have recovered : prevalidate (recover diagram.source.toList) = .ok diagram.kind := by
    rw [recover_eq, mapLines, still]
    refine quotesTitles_forceQuote.prevalidate_mapBreaks ?_ sourceAccepted
    rw [chars]
    exact quotes.isTrimmed_mapLines _
  refine ⟨prepare_eq_ready_iff.mpr ⟨?_, ?_⟩, sourceAccepted, recovered, ?_, ?_⟩
  · rwa [still]
  · rw [still, settled, String.ofList_toList]
  · exact (prevalidate_eq_ok_kind_iff.mp sourceAccepted).2.1
  · exact (prevalidate_eq_ok_kind_iff.mp recovered).2.1

/-- A header loses two blanks and gets quotes. -/
theorem stable_of_prepare_subgraph :
    Stable ⟨.flowchart, "flowchart TD\nsubgraph \"My Group\"\nA-->B\nend"⟩ :=
  have ready : prepare "flowchart TD\r\nsubgraph   My Group\r\nA-->B\r\nend" =
      .ready ⟨.flowchart, "flowchart TD\nsubgraph \"My Group\"\nA-->B\nend"⟩ := by decide +kernel
  stable_of_prepare (by decide +kernel) ready

-- With one more carriage return the source is shorter than the text, and too short.
example : prepare "graph\r\r\n---" = .ready ⟨.flowchart, "graph\n---"⟩ ∧
    prepare "graph\n---" = .rejected .tooShort := by decide +kernel

end CatalogueViewer.Diagram
