import CatalogueViewer.Proofs.Json.RoundTrip
import CatalogueViewer.Settings.Reading

/-!
# Reading written fields

A group of settings is read straight from its text.  Each field that stands in it takes its value
off the text and puts it in its place, whichever other fields are left out: `takes_group`.
-/

namespace CatalogueViewer.Into

open Json

variable {σ α : Type} {v : Json} {fuel : Nat}

/-- Off the front of any text the reader takes the text of a value, as `a`. -/
def Yields (read : List Char → Except Json.Error (α × List Char)) (v : Json) (a : α) : Prop :=
  ∀ rest, EndsNumeral rest → read (v.print ++ rest) = .ok (a, rest)

/-- Off the front of any text the reader takes the text of a value, and puts it in its place. -/
def Takes (read : Into σ) (v : Json) (put : σ → σ) : Prop :=
  ∀ state rest, EndsNumeral rest → read state (v.print ++ rest) = .ok (put state, rest)

theorem Yields.takes {read : List Char → Except Json.Error (α × List Char)} {a : α}
    (yields : Yields read v a) (set : σ → α → σ) : Takes (assign read set) v (set · a) := by
  intro state rest ends
  simp [assign, yields rest ends, bind, Except.bind]

/-! ### Single values -/

theorem lt_wordLimit_of_contains {range : IntRange} {n : Nat}
    (within : range.contains n = true) : n < wordLimit := by
  show n < 18446744073709551616
  cases range <;> simp [IntRange.contains] at within <;> omega

theorem yields_whole {range : IntRange} {n : Nat} (within : range.contains n = true) :
    Yields (whole range) (.int n) n := by
  intro rest ends
  obtain ⟨c, ds, split, digit⟩ := toDigits_digit_cons n
  have read := number_toDigits (lt_wordLimit_of_contains within) ends
  have unsigned : c ≠ '-' := ne_of_isDigit digit rfl
  have text : (Json.int n).print = c :: ds := by
    rw [print, printInt, if_neg (by omega), Int.natAbs_natCast, split]
  rw [split, List.cons_append] at read
  rw [text, List.cons_append, whole, skipGap_cons (isGap_of_isDigit digit)]
  simp [digit, unsigned, token, read, inRange, within, Except.mapError, bind, Except.bind]

theorem yields_flag (b : Bool) : Yields flag (.bool b) b := by
  intro rest _
  cases b <;> rfl

theorem yields_text (s : String) : Yields text (.str s) s := by
  intro rest _
  rw [print, printString, List.cons_append, List.cons_append, List.append_assoc,
    List.singleton_append, text, skipGap_cons rfl]
  simp [token, string_flatMap_printChar, Except.mapError]

/-! ### Members -/

/-- Reading the members one after the other leads from one state to the other. -/
inductive Reads (take : String → Into σ) : List (String × Json) → σ → σ → Prop
  | nil {state : σ} : Reads take [] state state
  | cons {m : String × Json} {ms : List (String × Json)} {state mid final : σ}
      (first : ∀ {rest}, EndsNumeral rest →
        take m.1 state (':' :: (m.2.print ++ rest)) = .ok (mid, rest))
      (later : Reads take ms mid final) : Reads take (m :: ms) state final

variable {take : String → Into σ} {m : String × Json} {ms : List (String × Json)}
  {state mid final : σ}

theorem members_element {first : Bool} {s tail rest : List Char}
    (next : nextName first s = .ok (.element (printNamed m tail)))
    (reads : take m.1 state (':' :: (m.2.print ++ tail)) = .ok (mid, tail))
    (later : members take fuel false mid tail = .ok (final, rest)) :
    members take (fuel + 1) first state s = .ok (final, rest) := by
  have name : string (printNamed m tail) = .ok (m.1, ':' :: (m.2.print ++ tail)) :=
    string_flatMap_printChar m.1 _
  rw [members, next]
  simp [token, Except.mapError, bind, Except.bind, name, reads, later]

theorem members_printMore (reads : Reads take ms state final) (enough : ms.length < fuel)
    (rest : List Char) :
    members take fuel false state (printMore printMember '\x7d' ms rest) = .ok (final, rest) := by
  induction reads generalizing fuel with
  | nil =>
    obtain ⟨fuel, rfl⟩ := Nat.exists_eq_succ_of_ne_zero (Nat.ne_of_gt enough)
    rfl
  | @cons m ms state mid final first _ ih =>
    obtain ⟨fuel, rfl⟩ := Nat.exists_eq_succ_of_ne_zero (Nat.ne_zero_of_lt enough)
    rw [printMore_cons, printMember_append]
    exact members_element rfl (first (endsNumeral_printMore printMember (by decide) ms rest))
      (ih (Nat.lt_of_succ_lt_succ enough))

theorem members_printMembers (reads : Reads take ms state final) (rest : List Char) :
    members take ((printMembers ms ++ '\x7d' :: rest).length + 1) true state
      (printMembers ms ++ '\x7d' :: rest) = .ok (final, rest) := by
  cases reads with
  | nil => rfl
  | @cons m ms _ mid _ first later =>
    have text : printMembers (m :: ms) ++ '\x7d' :: rest =
        '"' :: printNamed m (printMore printMember '\x7d' ms rest) := by
      rw [printMembers_cons, ← printMember_append, printMore, List.append_assoc]
    have enough : ms.length < (printNamed m (printMore printMember '\x7d' ms rest)).length + 1 := by
      have short := length_lt_printMore printMember '\x7d' ms rest
      simp only [printNamed, List.length_append, List.length_cons]
      omega
    rw [text]
    exact members_element rfl (first (endsNumeral_printMore printMember (by decide) ms rest))
      (members_printMore later enough rest)

theorem print_obj_append (ms : List (String × Json)) (rest : List Char) :
    (Json.obj ms).print ++ rest = '\x7b' :: (printMembers ms ++ '\x7d' :: rest) := by
  rw [print, List.cons_append, List.append_assoc, List.singleton_append]

/-! ### Tables of texts -/

theorem put_of_forall_lt {name : String} {value : α} {done : List (String × α)}
    (before : ∀ m ∈ done, m.1 < name) : put name value done = done ++ [(name, value)] := by
  induction done with
  | nil => rfl
  | cons m done ih =>
    obtain ⟨first, later⟩ := List.forall_mem_cons.mp before
    rw [put, if_neg (fun same => String.lt_irrefl name (by rwa [← same] at first)),
      if_neg (String.lt_asymm first), ih later, List.cons_append]

theorem foldl_put_of_sorted {more done : List (String × α)}
    (ascending : (done ++ more).Pairwise fun m n => m.1 < n.1) :
    more.foldl (fun done m => put m.1 m.2 done) done = done ++ more := by
  induction more generalizing done with
  | nil => rw [List.foldl_nil, List.append_nil]
  | cons m more ih =>
    have before : ∀ n ∈ done, n.1 < m.1 := fun n member =>
      (List.pairwise_append.mp ascending).2.2 n member m List.mem_cons_self
    rw [List.append_cons] at ascending
    rw [List.foldl_cons, put_of_forall_lt before, ih ascending, ← List.append_cons]

/-- Reads the text after a name into a table. -/
def textMember (name : String) : Into (List (String × String)) := fun table s => do
  let (_, s) ← token (colon s)
  let (value, s) ← text s
  .ok (put name value table, s)

theorem textTable_object (s : List Char) :
    textTable ('\x7b' :: s) = members textMember (s.length + 1) true [] s := rfl

theorem textMember_colon (name value : String) (table : List (String × String)) {rest : List Char}
    (ends : EndsNumeral rest) :
    textMember name table (':' :: ((Json.str value).print ++ rest)) =
      .ok (put name value table, rest) := by
  have mark : token (colon (':' :: ((Json.str value).print ++ rest))) =
      .ok ((), (Json.str value).print ++ rest) := rfl
  rw [textMember, mark]
  simp only [bind, Except.bind, yields_text value rest ends]

theorem reads_textMember (table done : List (String × String)) :
    Reads textMember (table.map fun m => (m.1, .str m.2)) done
      (table.foldl (fun done m => put m.1 m.2 done) done) := by
  induction table generalizing done with
  | nil => exact .nil
  | cons m table ih =>
    exact .cons (fun ends => textMember_colon m.1 m.2 done ends) (ih (put m.1 m.2 done))

/-- A table in the order of its names is read as it was written. -/
theorem yields_textTable {table : List (String × String)}
    (ascending : table.Pairwise fun m n => m.1 < n.1) :
    Yields textTable (.obj (table.map fun m => (m.1, .str m.2))) table := by
  intro rest _
  rw [print_obj_append, textTable_object, members_printMembers (reads_textMember table []) rest,
    foldl_put_of_sorted ascending, List.nil_append]

/-! ### Groups -/

/-- A field as it is written, and what it does when it is read. -/
structure Given (σ : Type) where
  name : String
  value : Json
  put : σ → σ

namespace Given

def member (e : Given σ) : String × Json := (e.name, e.value)

/-- The state after all of them were read. -/
def putAll (es : List (Given σ)) (state : σ) : σ := es.foldl (fun state e => e.put state) state

theorem putAll_filter (keep : String → Bool) (gs : List (Given σ)) (state : σ) :
    putAll (gs.filter fun g => keep g.name) state =
      gs.foldl (fun state g => if keep g.name then g.put state else state) state :=
  List.foldl_filter

/-- Among the fields there is one that takes the given one. -/
def IsKnown (fields : List (Setting σ)) (e : Given σ) : Prop :=
  ∃ field, fields.find? (fun f => f.name = e.name) = some field ∧ Takes field.read e.value e.put

end Given

variable {fields : List (Setting σ)} {es : List (Given σ)}

theorem member_of_known {e : Given σ} {field : Setting σ}
    (found : fields.find? (fun f => f.name = e.name) = some field)
    (takes : Takes field.read e.value e.put) {seen : List String} (new : e.name ∉ seen) (state : σ)
    {rest : List Char} (ends : EndsNumeral rest) :
    member fields e.name (seen, state) (':' :: (e.value.print ++ rest)) =
      .ok ((e.name :: seen, e.put state), rest) := by
  have mark : token (colon (':' :: (e.value.print ++ rest))) =
      .ok ((), e.value.print ++ rest) := rfl
  have once : seen.contains e.name = false := by simpa using new
  simp only [member, found, once, Bool.false_eq_true, if_false, mark, bind, Except.bind,
    takes state rest ends]

theorem reads_member (known : ∀ e ∈ es, e.IsKnown fields) (apart : (es.map Given.name).Nodup)
    {seen : List String} (fresh : ∀ e ∈ es, e.name ∉ seen) (state : σ) :
    ∃ others, Reads (Into.member fields) (es.map Given.member) (seen, state)
      (others, Given.putAll es state) := by
  induction es generalizing seen state with
  | nil => exact ⟨seen, .nil⟩
  | cons e es ih =>
    obtain ⟨⟨field, found, takes⟩, knownMore⟩ := List.forall_mem_cons.mp known
    obtain ⟨new, freshMore⟩ := List.forall_mem_cons.mp fresh
    rw [List.map_cons, List.nodup_cons] at apart
    have stillFresh : ∀ other ∈ es, other.name ∉ e.name :: seen := by
      intro other member again
      rcases List.mem_cons.mp again with same | earlier
      · exact apart.1 (same ▸ List.mem_map_of_mem member)
      · exact freshMore other member earlier
    obtain ⟨others, later⟩ := ih knownMore apart.2 stillFresh (e.put state)
    exact ⟨others, .cons (fun ends => member_of_known found takes new state ends) later⟩

/-- A group is read from those of its fields that are written, each of them once. -/
theorem takes_group (known : ∀ e ∈ es, e.IsKnown fields) (apart : (es.map Given.name).Nodup)
    (shape : String) :
    Takes (group shape fields) (.obj (es.map Given.member)) (Given.putAll es) := by
  intro state rest _
  obtain ⟨others, reads⟩ := reads_member known apart (fun _ _ => List.not_mem_nil) state
  rw [print_obj_append, group, skipGap_cons rfl]
  simp only [members_printMembers reads rest, bind, Except.bind]

end CatalogueViewer.Into
