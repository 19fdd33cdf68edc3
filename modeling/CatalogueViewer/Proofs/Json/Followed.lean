import CatalogueViewer.Proofs.Json.RoundTrip

/-!
# Reading a text that goes on

What a reader takes off the front of a text it also takes off when the text goes on, as long as no
number at its end is continued: `value_readsOn`.
-/

namespace CatalogueViewer.Json

variable {α : Type} {more : List Char}

theorem bind_eq_ok {ε β : Type} {x : Except ε α} {f : α → Except ε β} {b : β} :
    x >>= f = .ok b ↔ ∃ a, x = .ok a ∧ f a = .ok b := by
  cases x <;> simp [bind, Except.bind]

/-- What `f` takes off a text, `g` takes off the text with `more` after it. -/
def ReadsOn (more : List Char) (f g : Reader α) : Prop :=
  ∀ {s rest : List Char} {x : α}, f s = .ok (x, rest) → g (s ++ more) = .ok (x, rest ++ more)

theorem letters_readsOn (x : α) (word : List Char) :
    ReadsOn more (letters x word) (letters x word) := by
  intro s rest y read
  induction word generalizing s with
  | nil =>
    cases read
    rfl
  | cons c word ih =>
    cases s with
    | nil => cases read
    | cons d s =>
      rw [letters] at read
      split at read
      · next same =>
        rw [List.cons_append, letters, if_pos same]
        exact ih read
      · cases read

theorem skipGap_append {c : Char} {s t : List Char} (front : skipGap s = c :: t) :
    skipGap (s ++ more) = c :: t ++ more := by
  have stops : (s.dropWhile isGap).isEmpty = false := by
    rw [skipGap] at front
    rw [front]
    rfl
  rw [skipGap, List.dropWhile_append, stops, if_neg Bool.false_ne_true, ← skipGap, front]

/-! ### Strings -/

theorem exactly_readsOn (c : Char) : ReadsOn more (exactly c) (exactly c) := by
  intro s rest x read
  cases s with
  | nil => cases read
  | cons d s =>
    rw [exactly] at read
    split at read
    · next same =>
      cases read
      rw [List.cons_append, exactly, if_pos same]
    · cases read

theorem fourDigits_readsOn : ReadsOn more fourDigits fourDigits := by
  intro s rest n read
  unfold fourDigits at read
  split at read
  · split at read
    · next first second third fourth =>
      cases read
      simp only [List.cons_append, fourDigits, first, second, third, fourth]
    · cases read
  · split at read <;> cases read

theorem codePoint_readsOn : ReadsOn more codePoint codePoint := by
  intro s rest c read
  obtain ⟨⟨n, after⟩, digits, read⟩ := bind_eq_ok.mp read
  rw [codePoint, fourDigits_readsOn digits]
  simp only [bind, Except.bind]
  dsimp only at read
  by_cases low : isLowSurrogate n = true
  · rw [if_pos low] at read
    cases read
  rw [if_neg low] at read ⊢
  by_cases high : isHighSurrogate n = true
  · rw [if_pos high] at read ⊢
    obtain ⟨⟨_, slash⟩, first, read⟩ := bind_eq_ok.mp read
    obtain ⟨⟨_, letter⟩, second, read⟩ := bind_eq_ok.mp read
    obtain ⟨⟨m, last⟩, pair, read⟩ := bind_eq_ok.mp read
    simp only [exactly_readsOn _ first, exactly_readsOn _ second, fourDigits_readsOn pair]
    dsimp only at read
    split at read
    · next paired =>
      obtain ⟨same, ends⟩ := Prod.mk.inj (Except.ok.inj read)
      rw [if_pos paired, same, ends]
    · cases read
  · rw [if_neg high] at read ⊢
    obtain ⟨same, ends⟩ := Prod.mk.inj (Except.ok.inj read)
    rw [same, ends]

theorem escape_readsOn : ReadsOn more (escape codePoint) (escape codePoint) := by
  intro s rest c read
  fun_cases escape codePoint s with
  | case1 => cases read
  | case2 s => exact codePoint_readsOn read
  | case3 d s other e short =>
    simp only [escape, short] at read
    cases read
    simp only [List.cons_append, escape, short]
  | case4 d s other none =>
    simp only [escape, none] at read
    cases read

theorem stringTail_readsOn {fuel enough : Nat} (le : fuel ≤ enough) :
    ReadsOn more (stringTail codePoint fuel) (stringTail codePoint enough) := by
  intro s rest cs read
  fun_induction stringTail codePoint fuel s generalizing enough cs with
  | case1 => cases read
  | case2 => cases read
  | case3 fuel s =>
    cases read
    obtain ⟨enough, rfl⟩ := Nat.exists_eq_succ_of_ne_zero (Nat.ne_zero_of_lt le)
    rfl
  | case4 fuel s ih =>
    obtain ⟨enough, rfl⟩ := Nat.exists_eq_succ_of_ne_zero (Nat.ne_zero_of_lt le)
    obtain ⟨⟨c, after⟩, escaped, read⟩ := bind_eq_ok.mp read
    obtain ⟨⟨ds, last⟩, tail, read⟩ := bind_eq_ok.mp read
    cases read
    exact stringTail_escape (escape_readsOn escaped) (ih _ (Nat.le_of_succ_le_succ le) tail)
  | case5 => cases read
  | case6 fuel c s quote backslash visible ih =>
    obtain ⟨enough, rfl⟩ := Nat.exists_eq_succ_of_ne_zero (Nat.ne_zero_of_lt le)
    obtain ⟨⟨ds, last⟩, tail, read⟩ := bind_eq_ok.mp read
    cases read
    exact stringTail_plain quote backslash visible (ih (Nat.le_of_succ_le_succ le) tail)

theorem string_readsOn : ReadsOn more string string := by
  intro s rest text read
  obtain ⟨⟨cs, last⟩, tail, read⟩ := bind_eq_ok.mp read
  cases read
  have enough : s.length + 1 ≤ (s ++ more).length + 1 := by simp
  rw [string, stringTail_readsOn enough tail]
  rfl

/-! ### Numbers -/

theorem digits_append_more (ends : EndsNumeral more) (s : List Char) :
    digits (s ++ more) = ((digits s).1, (digits s).2 ++ more) := by
  induction s with
  | nil => exact digits_append (fun _ member => nomatch member) ends
  | cons c s ih =>
    simp only [digits, List.span_eq_takeWhile_dropWhile, Prod.mk.injEq] at ih ⊢
    cases digit : c.isDigit with
    | true => simp [digit, ih.1, ih.2]
    | false => simp [digit]

theorem wholeDigits_readsOn (ends : EndsNumeral more) :
    ReadsOn more wholeDigits wholeDigits := by
  intro s rest ds read
  fun_cases wholeDigits s with
  | case1 => cases read
  | case2 c s digit =>
    rw [wholeDigits, if_pos digit] at read
    cases read
  | case3 c s other =>
    rw [wholeDigits, if_neg other] at read
    cases read
    rw [List.cons_append, List.cons_append, wholeDigits, if_neg other]
  | case4 =>
    cases read
    cases more with
    | nil => rfl
    | cons c more => simp [wholeDigits, (ends c rfl).1]
  | case5 c s zero digit =>
    rw [wholeDigits, if_pos digit] at read
    · have split := Except.ok.inj read
      rw [List.cons_append, wholeDigits, if_pos digit, ← List.cons_append,
        digits_append_more ends, split]
      exact zero
    · exact zero
  | case6 c s zero other =>
    rw [wholeDigits, if_neg other] at read
    · cases read
    · exact zero

theorem someDigits_readsOn (ends : EndsNumeral more) : ReadsOn more someDigits someDigits := by
  intro s rest ds read
  cases s with
  | nil => cases read
  | cons c s =>
    rw [someDigits] at read
    split at read
    · next digit =>
      have split := Except.ok.inj read
      rw [List.cons_append, someDigits, if_pos digit, ← List.cons_append,
        digits_append_more ends, split]
    · cases read

theorem fractionPart_readsOn (ends : EndsNumeral more) :
    ReadsOn more fractionPart fractionPart := by
  intro s rest ds read
  fun_cases fractionPart s with
  | case1 s =>
    obtain ⟨⟨digits, last⟩, some, read⟩ := bind_eq_ok.mp read
    cases read
    rw [List.cons_append, fractionPart, someDigits_readsOn ends some]
    rfl
  | case2 s noPoint =>
    rw [fractionPart] at read
    · cases read
      cases s with
      | nil =>
        cases more with
        | nil => rfl
        | cons c more =>
          rw [List.nil_append, fractionPart]
          rintro s ⟨rfl⟩
          exact (ends '.' rfl).2.1 rfl
      | cons c s =>
        rw [List.cons_append, fractionPart]
        rintro t ⟨rfl⟩
        exact noPoint s rfl
    · exact noPoint

theorem exponentSign_append (c : Char) (s : List Char) :
    exponentSign (c :: s ++ more) =
      ((exponentSign (c :: s)).1, (exponentSign (c :: s)).2 ++ more) := by
  rw [List.cons_append]
  by_cases plus : c = '+'
  · rw [plus]
    rfl
  by_cases minus : c = '-'
  · rw [minus]
    rfl
  simp [exponentSign, plus, minus]

theorem exponentPart_readsOn (ends : EndsNumeral more) :
    ReadsOn more exponentPart exponentPart := by
  intro s rest ds read
  cases s with
  | nil =>
    cases read
    cases more with
    | nil => rfl
    | cons c more =>
      obtain ⟨-, -, small, capital⟩ := ends c rfl
      simp [exponentPart, small, capital]
  | cons c s =>
    rw [exponentPart] at read
    rw [List.cons_append, exponentPart]
    split at read
    · next mark =>
      rw [if_pos mark]
      dsimp only at read
      obtain ⟨⟨digits, last⟩, some, read⟩ := bind_eq_ok.mp read
      cases read
      cases s with
      | nil => cases some
      | cons d s =>
        rw [exponentSign_append]
        simp only [bind, Except.bind, someDigits_readsOn ends some]
    · next other =>
      rw [if_neg other]
      cases read
      rfl

theorem numeral_readsOn (ends : EndsNumeral more) (negative : Bool) :
    ReadsOn more (numeral negative) (numeral negative) := by
  intro s rest n read
  obtain ⟨⟨whole, s₁⟩, first, read⟩ := bind_eq_ok.mp read
  obtain ⟨⟨fraction, s₂⟩, second, read⟩ := bind_eq_ok.mp read
  obtain ⟨⟨exponent, s₃⟩, third, read⟩ := bind_eq_ok.mp read
  cases read
  rw [numeral, wholeDigits_readsOn ends first]
  simp only [bind, Except.bind, fractionPart_readsOn ends second, exponentPart_readsOn ends third]

theorem number_readsOn (ends : EndsNumeral more) (negative : Bool) :
    ReadsOn more (number negative) (number negative) := by
  intro s rest x read
  obtain ⟨⟨n, after⟩, digits, read⟩ := bind_eq_ok.mp read
  rw [number, numeral_readsOn ends negative digits]
  simp only [bind, Except.bind]
  dsimp only at read
  split at read
  · cases read
    rfl
  · cases read

/-! ### Containers -/

/-- The text after a mark goes on. -/
def Next.followed (more : List Char) : Next → Next
  | .closed rest => .closed (rest ++ more)
  | .element rest => .element (rest ++ more)

theorem colon_readsOn : ReadsOn more colon colon := by
  intro s rest x read
  rw [colon] at read ⊢
  cases front : skipGap s with
  | nil =>
    rw [front] at read
    cases read
  | cons c t =>
    rw [front] at read
    rw [skipGap_append front]
    exact exactly_readsOn ':' read

/-- Where the next item of a list is found, or its end. -/
inductive ItemAt : (first : Bool) → (s : List Char) → Next → Prop where
  | closed {first : Bool} {s rest : List Char} (front : skipGap s = ']' :: rest) :
      ItemAt first s (.closed rest)
  | first {s rest : List Char} {c : Char} (front : skipGap s = c :: rest) (open_ : c ≠ ']') :
      ItemAt true s (.element (c :: rest))
  | later {s between rest : List Char} {c : Char} (comma : skipGap s = ',' :: between)
      (front : skipGap between = c :: rest) (open_ : c ≠ ']') :
      ItemAt false s (.element (c :: rest))

theorem nextItem_eq_ok_iff {first : Bool} {s : List Char} {next : Next} :
    nextItem first s = .ok next ↔ ItemAt first s next := by
  constructor
  · intro read
    unfold nextItem at read
    split at read
    · cases read
    · next rest front =>
      cases read
      exact .closed front
    · next c t open_ front =>
      cases first with
      | true =>
        cases read
        exact .first front open_
      | false =>
        rw [if_neg Bool.false_ne_true] at read
        split at read
        · next comma =>
          subst comma
          split at read
          · cases read
          · cases read
          · next missing noEnd =>
            cases read
            obtain ⟨d, u, after⟩ := List.exists_cons_of_ne_nil missing
            rw [after] at noEnd ⊢
            exact .later front after fun same => noEnd u (same ▸ rfl)
        · cases read
  · intro found
    cases found with
    | closed front => simp only [nextItem, front]
    | first front open_ => simp [nextItem, front]
    | later comma front open_ =>
      simp only [nextItem, comma, front, List.cons.injEq, open_, false_and, imp_self, implies_true,
        if_true, Char.reduceEq, Bool.false_eq_true, if_false]

theorem nextItem_append {first : Bool} {s : List Char} {next : Next}
    (read : nextItem first s = .ok next) :
    nextItem first (s ++ more) = .ok (next.followed more) := by
  rw [nextItem_eq_ok_iff] at read ⊢
  cases read with
  | closed front => exact .closed (skipGap_append front)
  | first front open_ => exact .first (skipGap_append front) open_
  | later comma front open_ => exact .later (skipGap_append comma) (skipGap_append front) open_

/-- Where the next name of an object is found, past its quote, or the end of the object. -/
inductive NameAt : (first : Bool) → (s : List Char) → Next → Prop where
  | closed {first : Bool} {s rest : List Char} (front : skipGap s = '\x7d' :: rest) :
      NameAt first s (.closed rest)
  | first {s rest : List Char} (front : skipGap s = '"' :: rest) : NameAt true s (.element rest)
  | later {s between rest : List Char} (comma : skipGap s = ',' :: between)
      (front : skipGap between = '"' :: rest) : NameAt false s (.element rest)

theorem nextName_eq_ok_iff {first : Bool} {s : List Char} {next : Next} :
    nextName first s = .ok next ↔ NameAt first s next := by
  constructor
  · intro read
    unfold nextName at read
    split at read
    · cases read
    · next rest front =>
      cases read
      exact .closed front
    · next c t open_ front =>
      cases first with
      | true =>
        rw [if_pos rfl] at read
        split at read
        · next quote =>
          subst quote
          cases read
          exact .first front
        · cases read
      | false =>
        rw [if_neg Bool.false_ne_true] at read
        split at read
        · next comma =>
          subst comma
          split at read
          · cases read
          · next after =>
            cases read
            exact .later front after
          · cases read
        · cases read
  · intro found
    cases found with
    | closed front => simp only [nextName, front]
    | first front => simp only [nextName, front, Char.reduceEq, imp_self, if_true]
    | later comma front =>
      simp only [nextName, comma, front, Char.reduceEq, imp_self, Bool.false_eq_true, if_true,
        if_false]

theorem nextName_append {first : Bool} {s : List Char} {next : Next}
    (read : nextName first s = .ok next) :
    nextName first (s ++ more) = .ok (next.followed more) := by
  rw [nextName_eq_ok_iff] at read ⊢
  cases read with
  | closed front => exact .closed (skipGap_append front)
  | first front => exact .first (skipGap_append front)
  | later comma front => exact .later (skipGap_append comma) (skipGap_append front)

theorem items_readsOn {f g : Reader α} (reads : ReadsOn more f g) {fuel enough : Nat}
    (le : fuel ≤ enough) (first : Bool) :
    ReadsOn more (items f fuel first) (items g enough first) := by
  intro s rest xs read
  induction fuel generalizing enough first s xs with
  | zero => cases read
  | succ fuel ih =>
    obtain ⟨enough, rfl⟩ := Nat.exists_eq_succ_of_ne_zero (Nat.ne_zero_of_lt le)
    rw [items] at read ⊢
    cases mark : nextItem first s with
    | error e =>
      rw [mark] at read
      cases read
    | ok next =>
      rw [mark] at read
      rw [nextItem_append mark]
      cases next with
      | closed after =>
        cases read
        rfl
      | element after =>
        obtain ⟨⟨x, s₁⟩, item, read⟩ := bind_eq_ok.mp read
        obtain ⟨⟨xs, s₂⟩, others, read⟩ := bind_eq_ok.mp read
        cases read
        simp only [Next.followed, bind, Except.bind, reads item,
          ih (Nat.le_of_succ_le_succ le) false others]

theorem members_readsOn {κ : Type} {name : Reader κ} (names : ReadsOn more name name)
    {f g : Reader α} (reads : ReadsOn more f g) {fuel enough : Nat} (le : fuel ≤ enough)
    (first : Bool) : ReadsOn more (members name f fuel first) (members name g enough first) := by
  intro s rest xs read
  induction fuel generalizing enough first s xs with
  | zero => cases read
  | succ fuel ih =>
    obtain ⟨enough, rfl⟩ := Nat.exists_eq_succ_of_ne_zero (Nat.ne_zero_of_lt le)
    rw [members] at read ⊢
    cases mark : nextName first s with
    | error e =>
      rw [mark] at read
      cases read
    | ok next =>
      rw [mark] at read
      rw [nextName_append mark]
      cases next with
      | closed after =>
        cases read
        rfl
      | element after =>
        obtain ⟨⟨k, s₁⟩, key, read⟩ := bind_eq_ok.mp read
        obtain ⟨⟨_, s₂⟩, between, read⟩ := bind_eq_ok.mp read
        obtain ⟨⟨x, s₃⟩, item, read⟩ := bind_eq_ok.mp read
        obtain ⟨⟨xs, s₄⟩, others, read⟩ := bind_eq_ok.mp read
        cases read
        simp only [Next.followed, bind, Except.bind, names key, colon_readsOn between, reads item,
          ih (Nat.le_of_succ_le_succ le) false others]

/-! ### Values -/

theorem scalar_readsOn (ends : EndsNumeral more) : ReadsOn more scalar scalar := by
  intro s rest v read
  unfold scalar at read ⊢
  split at read
  · cases read
  · next front =>
    rw [skipGap_append front]
    exact letters_readsOn _ _ read
  · next front =>
    rw [skipGap_append front]
    exact letters_readsOn _ _ read
  · next front =>
    rw [skipGap_append front]
    exact letters_readsOn _ _ read
  · next front =>
    obtain ⟨⟨text, after⟩, body, read⟩ := bind_eq_ok.mp read
    cases read
    rw [skipGap_append front]
    simp only [List.cons_append, bind, Except.bind, string_readsOn body]
  · next front =>
    rw [skipGap_append front]
    exact number_readsOn ends true read
  · next front =>
    split at read
    · next digit =>
      rw [skipGap_append front]
      have numeral := number_readsOn ends false read
      simp only [List.cons_append, digit, if_true]
      exact numeral
    · cases read

theorem value_of_scalar {s rest : List Char} {v : Json} (read : scalar s = .ok (v, rest))
    (n : Nat) : value n s = .ok (v, rest) := by
  cases n with
  | zero => exact read
  | succ n =>
    rw [value]
    split
    · next front =>
      rw [scalar, front] at read
      cases read
    · next front =>
      rw [scalar, front] at read
      cases read
    · exact read

/-- A value is read alike in front of any text, and at any greater depth. -/
theorem value_readsOn (ends : EndsNumeral more) {n m : Nat} (le : n ≤ m) :
    ReadsOn more (value n) (value m) := by
  induction n generalizing m with
  | zero =>
    intro s rest v read
    exact value_of_scalar (scalar_readsOn ends read) m
  | succ n ih =>
    obtain ⟨m, rfl⟩ := Nat.exists_eq_succ_of_ne_zero (Nat.ne_zero_of_lt le)
    have reads : ReadsOn more (value n) (value m) := ih (Nat.le_of_succ_le_succ le)
    intro s rest v read
    unfold value at read
    split at read
    · next t front =>
      obtain ⟨⟨xs, after⟩, inside, read⟩ := bind_eq_ok.mp read
      cases read
      have enough : t.length + 1 ≤ (t ++ more).length + 1 := by simp
      simp only [value, skipGap_append front, List.cons_append, bind, Except.bind,
        items_readsOn reads enough true inside]
    · next t front =>
      obtain ⟨⟨xs, after⟩, inside, read⟩ := bind_eq_ok.mp read
      cases read
      have enough : t.length + 1 ≤ (t ++ more).length + 1 := by simp
      simp only [value, skipGap_append front, List.cons_append, bind, Except.bind,
        members_readsOn string_readsOn reads enough true inside]
    · exact value_of_scalar (scalar_readsOn ends read) (m + 1)

end CatalogueViewer.Json
