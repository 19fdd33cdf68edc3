import CatalogueViewer.Proofs.Diagram.Quoting
import CatalogueViewer.Proofs.Diagram.Rewriting

/-!
# Sources rewritten line by line

Both sources of a text are made of its lines, one by one: `rewritesLines_normalize_recover`.
-/

namespace CatalogueViewer.Diagram

open Text GroupHeader HeaderPiece

namespace HeaderPiece

theorem lineBound_header {inTitle : Char → Bool} {rest : List (Shape HeaderPiece)}
    {rule : Rule HeaderPiece} (shape : rule.shape = header inTitle rest)
    (free : (Shape.inOrder rest).isFree = true) (breaks : inTitle '\n' = false)
    (inLine : (Shape.inOrder rest).staysInLine = true) : rule.LineBound where
  inLine := by
    have titles : (Shape.piece title (.fewestOf inTitle)).staysInLine = true := by
      simp [Shape.staysInLine, Shape.fewestOf, breaks]
    have words : (Shape.word keyword : Shape HeaderPiece).staysInLine = true :=
      Shape.staysInLine_word (by simp [keyword_eq])
    rw [shape]
    exact Shape.staysInLine_cons rfl (Shape.staysInLine_cons rfl (Shape.staysInLine_cons words
      (Shape.staysInLine_cons rfl (Shape.staysInLine_cons titles inLine))))
  anchored s := by
    rw [shape]
    rfl
  some s r first := by
    rw [shape] at first
    obtain ⟨indent, gap, title, after, y, -, -, rfl, -⟩ := first_header free first
    simp [keyword_eq]

theorem rewriteAll_labelledRule (text : List Char) :
    labelledRule.rewriteAll text = mapBreaks quoteLabelled text := by
  rw [Rule.rewriteAll_eq (lineBound_header rfl rfl rfl rfl)]
  exact mapBreaks_congr (fun _ => rewriteLine_labelledRule) text

theorem rewriteAll_bareRule (text : List Char) :
    bareRule.rewriteAll text = mapBreaks quoteBare text := by
  rw [Rule.rewriteAll_eq (lineBound_header rfl rfl rfl rfl)]
  exact mapBreaks_congr (fun _ => rewriteLine_bareRule) text

theorem rewriteAll_forcingRule (text : List Char) :
    forcingRule.rewriteAll text = mapBreaks forceQuote text := by
  rw [Rule.rewriteAll_eq (lineBound_header rfl rfl rfl rfl)]
  exact mapBreaks_congr (fun _ => rewriteLine_forcingRule) text

end HeaderPiece

theorem normalize_eq (text : List Char) : normalize text = mapLines quoteIfNeeded text := by
  rw [normalize, applyRules, List.foldl_cons, List.foldl_cons, List.foldl_nil,
    rewriteAll_labelledRule, rewriteAll_bareRule,
    mapBreaks_mapBreaks fun _ => quotesTitles_quoteLabelled.inLine]
  exact congrArg (mapBreaks · (unify text)) (funext quoteIfNeeded_eq).symm

theorem recover_eq (text : List Char) : recover text = mapLines forceQuote text :=
  rewriteAll_forcingRule (unify text)

/-- A function on texts that rewrites the lines of the trimmed text one by one, and what becomes of
a line. -/
structure RewritesLines (whole f : List Char → List Char) : Prop where
  joined : ∀ text, whole text = joinBreaks ((splitBreaks (unifyBreaks (trim text))).map f)
  lines : ∀ text, splitBreaks (whole text) = (splitBreaks (unifyBreaks (trim text))).map f
  count : ∀ text, (splitBreaks (whole text)).length =
    (splitBreaks (unifyBreaks (trim text))).length
  /-- Only the title of a header is put in quotes. -/
  changed : ∀ line, f line ≠ line → ∃ u : UnquotedHeader, u.line = line ∧ f line = u.quoted
  quotes : ∀ line, f line ≠ line → (f line).count '"' = line.count '"' + 2
  again : ∀ line, f (f line) = f line
  other : ∀ line, (∀ h : GroupHeader, ¬ h.IsOf line) → f line = line
  keeps : ∀ h : GroupHeader, ∀ line, h.IsOf line → h.rest.head? = some '"' → f line = line

theorem QuotesTitles.rewritesLines {whole f : List Char → List Char} (quotes : QuotesTitles f)
    (eq : ∀ text, whole text = mapLines f text) : RewritesLines whole f := by
  have lines : ∀ text, splitBreaks (whole text) = (splitBreaks (unifyBreaks (trim text))).map f := by
    intro text
    rw [eq]
    exact splitBreaks_mapBreaks (fun _ => quotes.inLine) (unify text)
  exact
    { joined := eq
      lines
      count := fun text => by rw [lines, List.length_map]
      changed := fun _ => quotes.of_ne
      quotes := fun _ => quotes.count
      again := quotes.again
      other := fun _ => quotes.other
      keeps := quotes.keeps }

/-- A first attempt to draw a text rewrites its lines one by one, and so does a second one. -/
theorem rewritesLines_normalize_recover :
    RewritesLines normalize quoteIfNeeded ∧ RewritesLines recover forceQuote :=
  ⟨quotesTitles_quoteIfNeeded.rewritesLines normalize_eq,
    quotesTitles_forceQuote.rewritesLines recover_eq⟩

example : normalize "flowchart TD\r\n subgraph Web  (v2) x\r\n  A-->B\r\nend\n".toList =
    "flowchart TD\n subgraph \"Web  (v2)\" x\n  A-->B\nend".toList := by decide

end CatalogueViewer.Diagram
