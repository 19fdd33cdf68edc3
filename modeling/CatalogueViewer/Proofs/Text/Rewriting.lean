import CatalogueViewer.Proofs.Text.Pieces
import CatalogueViewer.Text.Rewriting

/-!
# Rewriting line by line

A rule whose shape starts at the start of a line and passes over no line feed rewrites each line of
a text on its own: `rewriteAll_eq`.  Of the readings of a passage the first one is told by what
comes before it.
-/

namespace CatalogueViewer.Text

variable {Name : Type} {p : Char → Bool} {fresh : Bool} {s line : List Char}

namespace Shape

variable {shape first second x : Shape Name} {r : Reading Name}

/-! ### Readings -/

theorem mem_runs_iff : r ∈ runs p s ↔
    r.pieces = [] ∧ s = r.text ++ r.rest ∧ ∀ c ∈ r.text, p c = true := by
  induction s generalizing r with
  | nil =>
    obtain ⟨⟨text, pieces⟩, rest⟩ := r
    simp only [runs, List.mem_singleton, Reading.mk.injEq, Passage.mk.injEq, List.nil_eq,
      List.append_eq_nil_iff]
    constructor
    · rintro ⟨⟨rfl, rfl⟩, rfl⟩
      exact ⟨rfl, ⟨rfl, rfl⟩, fun _ none => by cases none⟩
    · rintro ⟨rfl, ⟨rfl, rfl⟩, -⟩
      exact ⟨⟨rfl, rfl⟩, rfl⟩
  | cons c s ih =>
    obtain ⟨⟨text, pieces⟩, rest⟩ := r
    cases text with
    | nil =>
      rw [runs, List.mem_cons]
      constructor
      · rintro (same | longer)
        · cases same
          exact ⟨rfl, rfl, fun _ none => by cases none⟩
        · split at longer
          · obtain ⟨run, -, same⟩ := List.mem_map.mp longer
            cases same
          · cases longer
      · rintro ⟨rfl, rfl, -⟩
        exact .inl rfl
    | cons d text =>
      rw [runs, List.mem_cons]
      constructor
      · rintro (same | longer)
        · cases same
        · split at longer
          · next fits =>
            obtain ⟨run, member, same⟩ := List.mem_map.mp longer
            cases same
            obtain ⟨none, split, all⟩ := ih.mp member
            exact ⟨none, congrArg (c :: ·) split, List.forall_mem_cons.mpr ⟨fits, all⟩⟩
          · cases longer
      · rintro ⟨rfl, split, all⟩
        obtain ⟨fits, later⟩ := List.forall_mem_cons.mp all
        obtain ⟨rfl, same⟩ := List.cons.inj split
        refine .inr ?_
        rw [if_pos fits]
        exact List.mem_map.mpr ⟨⟨⟨text, []⟩, rest⟩, ih.mpr ⟨rfl, same, later⟩, rfl⟩

theorem mem_seq_iff : r ∈ (seq first second).readings fresh s ↔
    ∃ x ∈ first.readings fresh s, ∃ y ∈ second.readings (startsLine fresh x.text) x.rest,
      r = x.followedBy y := by
  simp only [readings, List.mem_flatMap, List.mem_map, eq_comm]

theorem split_of_mem_readings (member : r ∈ shape.readings fresh s) : s = r.text ++ r.rest := by
  induction shape generalizing fresh s r with
  | empty => cases List.mem_singleton.mp member; rfl
  | one p =>
    cases s with
    | nil => cases member
    | cons c s =>
      rw [readings] at member
      split at member
      · cases List.mem_singleton.mp member
        rfl
      · cases member
  | most p => exact (mem_runs_iff.mp (List.mem_reverse.mp member)).2.1
  | fewest p => exact (mem_runs_iff.mp member).2.1
  | seq first second ihFirst ihSecond =>
    obtain ⟨x, here, y, next, rfl⟩ := mem_seq_iff.mp member
    have whole := ihFirst here
    have later := ihSecond next
    simp only [Reading.followedBy, List.append_assoc, ← later]
    exact whole
  | optional x ih =>
    rcases List.mem_append.mp member with there | missing
    · exact ih there
    · cases List.mem_singleton.mp missing
      rfl
  | piece name x ih =>
    obtain ⟨y, inside, rfl⟩ := List.mem_map.mp member
    exact ih (r := y) inside
  | lineStart =>
    rw [readings] at member
    split at member
    · cases List.mem_singleton.mp member
      rfl
    · cases member
  | lineEnd =>
    rw [readings] at member
    split at member
    · cases List.mem_singleton.mp member
      rfl
    · cases member

/-! ### Runs of at least one character -/

/-- A run of at least one character of a class. -/
structure IsRun (p : Char → Bool) (s : List Char) (r : Reading Name) : Prop where
  pieces : r.pieces = []
  split : s = r.text ++ r.rest
  some : r.text ≠ []
  all : ∀ c ∈ r.text, p c = true

def longer (c : Char) (r : Reading Name) : Reading Name := ⟨⟨c :: r.text, r.pieces⟩, r.rest⟩

theorem readings_one_seq (x : Shape Name) (c : Char) :
    (seq (one p) x).readings fresh (c :: s) =
      if p c then (x.readings (c == '\n') s).map (longer c) else [] := by
  rw [readings, readings]
  split
  · rw [List.flatMap_singleton]
    rfl
  · rfl

theorem mem_readings_one_seq_iff {x : Shape Name}
    (runs_ : ∀ fresh s, ∀ y : Reading Name, y ∈ x.readings fresh s ↔ y ∈ runs p s) :
    r ∈ (seq (one p) x).readings fresh s ↔ IsRun p s r := by
  cases s with
  | nil =>
    refine iff_of_false (fun member => by cases member) fun run => run.some ?_
    exact (List.append_eq_nil_iff.mp run.split.symm).1
  | cons c s =>
    rw [readings_one_seq]
    constructor
    · intro member
      split at member
      · next fits =>
        obtain ⟨y, later, rfl⟩ := List.mem_map.mp member
        obtain ⟨pieces, split, all⟩ := mem_runs_iff.mp ((runs_ _ _ y).mp later)
        exact ⟨pieces, congrArg (c :: ·) split, List.cons_ne_nil _ _,
          List.forall_mem_cons.mpr ⟨fits, all⟩⟩
      · cases member
    · rintro ⟨pieces, split, some, all⟩
      obtain ⟨⟨text, _⟩, rest⟩ := r
      cases text with
      | nil => exact absurd rfl some
      | cons d text =>
        dsimp only at pieces
        subst pieces
        obtain ⟨rfl, same⟩ := List.cons.inj split
        obtain ⟨fits, later⟩ := List.forall_mem_cons.mp all
        rw [if_pos fits]
        exact List.mem_map.mpr ⟨⟨⟨text, []⟩, rest⟩,
          (runs_ _ _ _).mpr (mem_runs_iff.mpr ⟨rfl, same, later⟩), rfl⟩

theorem mem_mostOf_iff : r ∈ (mostOf p).readings fresh s ↔ IsRun p s r :=
  mem_readings_one_seq_iff fun _ _ _ => List.mem_reverse

theorem mem_fewestOf_iff : r ∈ (fewestOf p).readings fresh s ↔ IsRun p s r :=
  mem_readings_one_seq_iff fun _ _ _ => Iff.rfl

def Shorter (a b : Reading Name) : Prop := a.text.length < b.text.length

theorem pairwise_runs (p : Char → Bool) (s : List Char) :
    (runs p s : List (Reading Name)).Pairwise Shorter := by
  induction s with
  | nil => exact List.pairwise_singleton _ _
  | cons c s ih =>
    rw [runs, List.pairwise_cons]
    split
    · refine ⟨fun r member => ?_, List.pairwise_map.mpr (ih.imp fun less => ?_)⟩
      · obtain ⟨y, -, rfl⟩ := List.mem_map.mp member
        exact Nat.succ_pos _
      · exact Nat.succ_lt_succ less
    · exact ⟨fun _ none => (by cases none), List.Pairwise.nil⟩

theorem pairwise_fewestOf (p : Char → Bool) (fresh : Bool) (s : List Char) :
    ((fewestOf p : Shape Name).readings fresh s).Pairwise Shorter := by
  cases s with
  | nil => exact List.Pairwise.nil
  | cons c s =>
    rw [fewestOf, readings_one_seq]
    split
    · exact List.pairwise_map.mpr ((pairwise_runs p s).imp Nat.succ_lt_succ)
    · exact List.Pairwise.nil

theorem pairwise_mostOf (p : Char → Bool) (fresh : Bool) (s : List Char) :
    ((mostOf p : Shape Name).readings fresh s).Pairwise fun a b => Shorter b a := by
  cases s with
  | nil => exact List.Pairwise.nil
  | cons c s =>
    rw [mostOf, readings_one_seq]
    split
    · exact List.pairwise_map.mpr
        ((List.pairwise_reverse.mpr (pairwise_runs p s)).imp Nat.succ_lt_succ)
    · exact List.Pairwise.nil

/-! ### The preferred reading -/

/-- The reading that counts. -/
def First (shape : Shape Name) (fresh : Bool) (s : List Char) (r : Reading Name) : Prop :=
  (shape.readings fresh s).head? = some r

theorem First.mem (is : First shape fresh s r) : r ∈ shape.readings fresh s :=
  List.mem_of_mem_head? is

theorem First.split (is : First shape fresh s r) : s = r.text ++ r.rest :=
  split_of_mem_readings is.mem

theorem mem_before_of_pairwise {α : Type} {before after : List α} {x z : α} {R : α → α → Prop}
    (order : (before ++ x :: after).Pairwise R) (member : z ∈ before ++ x :: after) (other : z ≠ x)
    (preferred : ¬ R x z) : z ∈ before := by
  rcases List.mem_append.mp member with earlier | later
  · exact earlier
  · rcases List.mem_cons.mp later with same | after
    · exact absurd same other
    · have rest := (List.pairwise_append.mp order).2.1
      exact absurd ((List.pairwise_cons.mp rest).1 z after) preferred

/-- The shape says nothing about the start of a line. -/
def isFree : Shape Name → Bool
  | lineStart => false
  | seq first second => first.isFree && second.isFree
  | optional x => x.isFree
  | piece _ x => x.isFree
  | _ => true

theorem readings_of_isFree (free : shape.isFree = true) (fresh other : Bool) (s : List Char) :
    shape.readings fresh s = shape.readings other s := by
  induction shape generalizing fresh other s with
  | empty | one | most | fewest | lineEnd => cases s <;> rfl
  | lineStart => cases free
  | seq first second ihFirst ihSecond =>
    obtain ⟨one, two⟩ : first.isFree = true ∧ second.isFree = true := by
      simpa [isFree] using free
    rw [readings, readings, ihFirst one fresh other]
    congr 1
    funext r
    rw [ihSecond two]
  | optional x ih => rw [readings, readings, ih free fresh other]
  | piece name x ih => rw [readings, readings, ih free fresh other]

theorem mem_lineStart_iff : r ∈ (lineStart : Shape Name).readings true s ↔ r = ⟨⟨[], []⟩, s⟩ :=
  List.mem_singleton

theorem mem_optional_iff : r ∈ (optional x).readings fresh s ↔
    r ∈ x.readings fresh s ∨ r = ⟨⟨[], []⟩, s⟩ := by
  rw [readings, List.mem_append, List.mem_singleton]

theorem mem_lineEnd_iff : r ∈ (lineEnd : Shape Name).readings fresh s ↔
    s.head?.all (· == '\n') = true ∧ r = ⟨⟨[], []⟩, s⟩ := by
  rw [readings]
  split
  · next ends => exact ⟨fun here => ⟨ends, List.mem_singleton.mp here⟩, fun here => by simp [here.2]⟩
  · next goesOn => exact ⟨fun none => (by cases none), fun here => absurd here.1 goesOn⟩

theorem mem_piece_iff {name : Name} : r ∈ (piece name x).readings fresh s ↔
    ∃ y ∈ x.readings fresh s, r = ⟨⟨y.text, (name, y.text) :: y.pieces⟩, y.rest⟩ := by
  simp only [readings, List.mem_map, eq_comm]

theorem mem_one_iff : r ∈ (one p).readings fresh s ↔
    ∃ c rest, s = c :: rest ∧ p c = true ∧ r = ⟨⟨[c], []⟩, rest⟩ := by
  cases s with
  | nil => simp [readings]
  | cons c s =>
    rw [readings]
    constructor
    · intro member
      split at member
      · next fits => exact ⟨c, s, rfl, fits, List.mem_singleton.mp member⟩
      · cases member
    · rintro ⟨d, rest, same, fits, rfl⟩
      cases same
      rw [if_pos fits]
      exact List.mem_singleton_self _

theorem mem_most_iff : r ∈ (most p).readings fresh s ↔
    r.pieces = [] ∧ s = r.text ++ r.rest ∧ ∀ c ∈ r.text, p c = true :=
  List.mem_reverse.trans mem_runs_iff

theorem isFree_cons {shapes : List (Shape Name)} (here : x.isFree = true)
    (after : (inOrder shapes).isFree = true) : (inOrder (x :: shapes)).isFree = true := by
  rw [inOrder, List.foldr_cons, isFree, here]
  exact after

/-- The preferred reading starts with the first reading of the first shape from which the others
can be read on. -/
theorem First.earliest {shapes : List (Shape Name)} (free : (inOrder shapes).isFree = true)
    (is : First (inOrder (x :: shapes)) fresh s r) :
    ∃ before z later y, x.readings fresh s = before ++ z :: later ∧ r = z.followedBy y ∧
      First (inOrder shapes) false z.rest y ∧
      ∀ w ∈ before, (inOrder shapes).readings false w.rest = [] := by
  rw [First, inOrder, List.foldr_cons, ← inOrder, readings, List.head?_flatMap,
    List.findSome?_eq_some_iff] at is
  obtain ⟨before, z, later, split, found, none⟩ := is
  rw [List.head?_map, Option.map_eq_some_iff, readings_of_isFree free _ false] at found
  obtain ⟨y, next, rfl⟩ := found
  refine ⟨before, z, later, y, split, rfl, next, fun w earlier => ?_⟩
  have dead := List.map_eq_nil_iff.mp (List.head?_eq_none_iff.mp (none w earlier))
  rwa [readings_of_isFree free _ false] at dead

theorem First.cons {shapes : List (Shape Name)} (free : (inOrder shapes).isFree = true)
    (is : First (inOrder (x :: shapes)) fresh s r) :
    ∃ z ∈ x.readings fresh s, ∃ y, First (inOrder shapes) false z.rest y ∧ r = z.followedBy y := by
  obtain ⟨before, z, later, y, split, same, next, -⟩ := is.earliest free
  exact ⟨z, by simp [split], y, next, same⟩

theorem mem_cons_iff {shapes : List (Shape Name)} (free : (inOrder shapes).isFree = true) :
    r ∈ (inOrder (x :: shapes)).readings fresh s ↔
      ∃ z ∈ x.readings fresh s, ∃ y ∈ (inOrder shapes).readings false z.rest,
        r = z.followedBy y := by
  rw [inOrder, List.foldr_cons, ← inOrder, mem_seq_iff]
  simp only [readings_of_isFree free _ false]

theorem cons_ne_nil {shapes : List (Shape Name)} {z : Reading Name}
    (free : (inOrder shapes).isFree = true) (here : z ∈ x.readings fresh s)
    (next : (inOrder shapes).readings false z.rest ≠ []) :
    (inOrder (x :: shapes)).readings fresh s ≠ [] := by
  obtain ⟨y, after⟩ := List.exists_mem_of_ne_nil _ next
  exact List.ne_nil_of_mem ((mem_cons_iff free).mpr ⟨z, here, y, after, rfl⟩)

theorem isFree_word (cs : List Char) : (word cs : Shape Name).isFree = true := by
  induction cs with
  | nil => rfl
  | cons c cs ih => exact ih

theorem mem_char_iff {c : Char} : r ∈ (char c).readings fresh s ↔
    ∃ rest, s = c :: rest ∧ r = ⟨⟨[c], []⟩, rest⟩ := by
  refine Iff.trans mem_one_iff ?_
  simp only [beq_iff_eq]
  constructor
  · rintro ⟨_, rest, rfl, rfl, rfl⟩
    exact ⟨rest, rfl, rfl⟩
  · rintro ⟨rest, rfl, rfl⟩
    exact ⟨c, rest, rfl, rfl, rfl⟩

theorem mem_inOrder_nil_iff : r ∈ (inOrder ([] : List (Shape Name))).readings fresh s ↔
    r = ⟨⟨[], []⟩, s⟩ := List.mem_singleton

theorem mem_word_iff {cs : List Char} : r ∈ (word cs).readings fresh s ↔
    ∃ rest, s = cs ++ rest ∧ r = ⟨⟨cs, []⟩, rest⟩ := by
  induction cs generalizing fresh s r with
  | nil =>
    constructor
    · intro member
      exact ⟨s, rfl, mem_inOrder_nil_iff.mp member⟩
    · rintro ⟨rest, rfl, rfl⟩
      exact mem_inOrder_nil_iff.mpr rfl
  | cons d cs ih =>
    refine Iff.trans (mem_cons_iff (isFree_word cs)) ?_
    constructor
    · rintro ⟨x, here, y, next, rfl⟩
      obtain ⟨rest, rfl, rfl⟩ := mem_char_iff.mp here
      obtain ⟨after, split, rfl⟩ := ih.mp next
      exact ⟨after, congrArg (d :: ·) split, rfl⟩
    · rintro ⟨rest, rfl, rfl⟩
      exact ⟨_, mem_char_iff.mpr ⟨cs ++ rest, rfl, rfl⟩, _, ih.mpr ⟨rest, rfl, rfl⟩, rfl⟩

/-! Readings of texts that fall into the right parts. -/

theorem mem_most (all : ∀ c ∈ s, p c = true) (rest : List Char) :
    (⟨⟨s, []⟩, rest⟩ : Reading Name) ∈ (most p).readings fresh (s ++ rest) :=
  mem_most_iff.mpr ⟨rfl, rfl, all⟩

theorem mem_mostOf (some : s ≠ []) (all : ∀ c ∈ s, p c = true) (rest : List Char) :
    (⟨⟨s, []⟩, rest⟩ : Reading Name) ∈ (mostOf p).readings fresh (s ++ rest) :=
  mem_mostOf_iff.mpr ⟨rfl, rfl, some, all⟩

theorem mem_fewestOf (some : s ≠ []) (all : ∀ c ∈ s, p c = true) (rest : List Char) :
    (⟨⟨s, []⟩, rest⟩ : Reading Name) ∈ (fewestOf p).readings fresh (s ++ rest) :=
  mem_fewestOf_iff.mpr ⟨rfl, rfl, some, all⟩

theorem mem_char (c : Char) (rest : List Char) :
    (⟨⟨[c], []⟩, rest⟩ : Reading Name) ∈ (char c).readings fresh (c :: rest) :=
  mem_char_iff.mpr ⟨rest, rfl, rfl⟩

theorem mem_word (cs rest : List Char) :
    (⟨⟨cs, []⟩, rest⟩ : Reading Name) ∈ (word cs).readings fresh (cs ++ rest) :=
  mem_word_iff.mpr ⟨rest, rfl, rfl⟩

theorem mem_piece {name : Name} (inside : r ∈ x.readings fresh s) :
    ⟨⟨r.text, (name, r.text) :: r.pieces⟩, r.rest⟩ ∈ (piece name x).readings fresh s :=
  mem_piece_iff.mpr ⟨r, inside, rfl⟩

theorem piece_ne_nil {name : Name} (some : x.readings fresh s ≠ []) :
    (piece name x).readings fresh s ≠ [] := by
  rwa [readings, Ne, List.map_eq_nil_iff]

theorem inOrder_singleton_ne_nil (some : x.readings fresh s ≠ []) :
    (inOrder [x]).readings fresh s ≠ [] := by
  obtain ⟨z, here⟩ := List.exists_mem_of_ne_nil _ some
  exact cons_ne_nil rfl here (List.cons_ne_nil _ _)

/-- A run is as long as the rest can still be read after it. -/
theorem First.mostOf_cons {shapes : List (Shape Name)}
    (free : (inOrder shapes).isFree = true)
    (is : First (inOrder (mostOf p :: shapes)) fresh s r) :
    ∃ run after y, s = run ++ after ∧ run ≠ [] ∧ (∀ c ∈ run, p c = true) ∧
      r = ⟨⟨run ++ y.text, y.pieces⟩, y.rest⟩ ∧ First (inOrder shapes) false after y ∧
      ∀ run' after', s = run' ++ after' → (∀ c ∈ run', p c = true) →
        run.length < run'.length → (inOrder shapes).readings false after' = [] := by
  obtain ⟨before, x, later, y, split, rfl, next, none⟩ := is.earliest free
  have member : x ∈ (mostOf p).readings fresh s := by simp [split]
  obtain ⟨pieces, whole, some, all⟩ := mem_mostOf_iff.mp member
  refine ⟨x.text, x.rest, y, whole, some, all, ?_, next, fun run after same fits more => ?_⟩
  · rw [Reading.followedBy, pieces, List.nil_append]
  · have other : (⟨⟨run, []⟩, after⟩ : Reading Name) ∈ (mostOf p).readings fresh s := by
      refine mem_mostOf_iff.mpr ⟨rfl, same, fun none => ?_, fits⟩
      dsimp only at none
      rw [none] at more
      cases more
    have order : ((mostOf p).readings fresh s).Pairwise fun a b : Reading Name => Shorter b a :=
      pairwise_mostOf p fresh s
    rw [split] at order other
    -- Longer runs come before the preferred one, and nothing could be read after those.
    have earlier := mem_before_of_pairwise order other
      (fun equal => by rw [← equal] at more; exact Nat.lt_irrefl _ more) (Nat.lt_asymm more)
    exact none _ earlier

/-- A run is as short as the rest can still be read after it. -/
theorem First.fewestOf_cons {name : Name} {shapes : List (Shape Name)}
    (free : (inOrder shapes).isFree = true)
    (is : First (inOrder (piece name (fewestOf p) :: shapes)) fresh s r) :
    ∃ run after y, s = run ++ after ∧ run ≠ [] ∧ (∀ c ∈ run, p c = true) ∧
      r = ⟨⟨run ++ y.text, (name, run) :: y.pieces⟩, y.rest⟩ ∧ First (inOrder shapes) false after y ∧
      ∀ run' after', s = run' ++ after' → run' ≠ [] → (∀ c ∈ run', p c = true) →
        run'.length < run.length → (inOrder shapes).readings false after' = [] := by
  obtain ⟨before, x, later, y, split, rfl, next, none⟩ := is.earliest free
  have member : x ∈ (piece name (fewestOf p)).readings fresh s := by simp [split]
  obtain ⟨x, run, rfl⟩ := List.mem_map.mp member
  obtain ⟨pieces, whole, some, all⟩ := mem_fewestOf_iff.mp run
  refine ⟨x.text, x.rest, y, whole, some, all, ?_, next, fun run after same some fits less => ?_⟩
  · simp [Reading.followedBy, pieces]
  · have other : (⟨⟨run, [(name, run)]⟩, after⟩ : Reading Name) ∈
        (piece name (fewestOf p)).readings fresh s :=
      List.mem_map.mpr ⟨⟨⟨run, []⟩, after⟩, mem_fewestOf_iff.mpr ⟨rfl, same, some, fits⟩, rfl⟩
    have order : ((piece name (fewestOf p)).readings fresh s).Pairwise Shorter :=
      List.pairwise_map.mpr (pairwise_fewestOf p fresh s)
    rw [split] at order other
    have earlier := mem_before_of_pairwise order other
      (fun equal => by
        have texts := congrArg (fun r : Reading Name => r.text) equal
        dsimp only at texts
        rw [texts] at less
        exact Nat.lt_irrefl _ less)
      (Nat.lt_asymm less)
    exact none _ earlier

/-! ### Readings of one line -/

/-- The shape passes over no line feed. -/
def staysInLine : Shape Name → Bool
  | one p | most p | fewest p => !p '\n'
  | seq first second => first.staysInLine && second.staysInLine
  | optional x => x.staysInLine
  | piece _ x => x.staysInLine
  | empty | lineStart | lineEnd => true

theorem staysInLine_cons {shapes : List (Shape Name)} (here : x.staysInLine = true)
    (after : (inOrder shapes).staysInLine = true) : (inOrder (x :: shapes)).staysInLine = true :=
  Bool.and_eq_true_iff.mpr ⟨here, after⟩

theorem staysInLine_word {cs : List Char} (inLine : '\n' ∉ cs) :
    (word cs : Shape Name).staysInLine = true := by
  induction cs with
  | nil => rfl
  | cons c cs ih =>
    obtain ⟨other, more⟩ : '\n' ≠ c ∧ '\n' ∉ cs := by simpa using inLine
    have here : (char c : Shape Name).staysInLine = true := by
      simpa [char, staysInLine] using other
    exact staysInLine_cons here (ih more)

end Shape

/-- The reading in a text that goes on. -/
def Reading.goOn (more : List Char) (r : Reading Name) : Reading Name :=
  ⟨⟨r.text, r.pieces⟩, r.rest ++ more⟩

/-- The text is empty or starts with a line feed. -/
def EndsLine (more : List Char) : Prop := more = [] ∨ ∃ rest, more = '\n' :: rest

namespace Shape

variable {shape : Shape Name} {more : List Char}

theorem runs_append (breaks : p '\n' = false) (ends : EndsLine more) :
    (runs p (s ++ more) : List (Reading Name)) = (runs p s).map (Reading.goOn more) := by
  induction s with
  | nil =>
    rcases ends with rfl | ⟨rest, rfl⟩
    · rfl
    · simp [runs, breaks, Reading.goOn]
  | cons c s ih =>
    rw [List.cons_append, runs, runs, ih]
    cases p c <;> simp [Reading.goOn, Function.comp_def]

/-- What follows a line does not change how the line is read. -/
theorem readings_append (inLine : shape.staysInLine = true) (ends : EndsLine more) (fresh : Bool)
    (s : List Char) :
    shape.readings fresh (s ++ more) = (shape.readings fresh s).map (Reading.goOn more) := by
  induction shape generalizing fresh s with
  | empty => rfl
  | one p =>
    have breaks : p '\n' = false := by simpa [staysInLine] using inLine
    cases s with
    | nil => rcases ends with rfl | ⟨rest, rfl⟩ <;> simp [readings, breaks]
    | cons c s => cases fits : p c <;> simp [readings, fits, Reading.goOn]
  | most p =>
    have breaks : p '\n' = false := by simpa [staysInLine] using inLine
    rw [readings, readings, runs_append breaks ends, List.map_reverse]
  | fewest p =>
    have breaks : p '\n' = false := by simpa [staysInLine] using inLine
    exact runs_append breaks ends
  | seq first second ihFirst ihSecond =>
    obtain ⟨one, two⟩ : first.staysInLine = true ∧ second.staysInLine = true := by
      simpa [staysInLine] using inLine
    rw [readings, readings, ihFirst one, List.flatMap_map, List.map_flatMap]
    congr 1
    funext r
    rw [Reading.goOn, ihSecond two, List.map_map, List.map_map]
    rfl
  | optional x ih => rw [readings, readings, ih inLine, List.map_append]; rfl
  | piece name x ih => rw [readings, readings, ih inLine, List.map_map, List.map_map]; rfl
  | lineStart => cases fresh <;> rfl
  | lineEnd =>
    cases s with
    | nil => rcases ends with rfl | ⟨rest, rfl⟩ <;> rfl
    | cons c s => cases feed : c == '\n' <;> simp [readings, feed, Reading.goOn]

end Shape

/-! ### Rewriting a text -/

namespace Rule

variable {rule : Rule Name} {more : List Char}

/-- Passages start at the start of a line, end in it and are not empty. -/
structure LineBound (rule : Rule Name) : Prop where
  inLine : rule.shape.staysInLine = true
  anchored : ∀ s, rule.shape.readings false s = []
  some : ∀ s r, Shape.First rule.shape true s r → r.text ≠ []

/-- The line with its passage rewritten, if it starts with one. -/
def rewriteLine (rule : Rule Name) (line : List Char) : List Char :=
  match (rule.shape.readings true line).head? with
  | none => line
  | some r => rule.rewrite r.toPassage ++ r.rest

/-- What a rule does to a line: it is enough to know the preferred reading, and that there is one
wherever the line changes. -/
theorem rewriteLine_eq {f : List Char → List Char}
    (first : ∀ r, Shape.First rule.shape true line r → rule.rewrite r.toPassage ++ r.rest = f line)
    (some : f line ≠ line → rule.shape.readings true line ≠ []) :
    rule.rewriteLine line = f line := by
  unfold rewriteLine
  split
  · next none =>
    by_contra changed
    exact some (Ne.symm changed) (List.head?_eq_none_iff.mp none)
  · next r is => exact first r is

theorem startsLine_cons (fresh : Bool) (c : Char) (s : List Char) :
    startsLine fresh (c :: s) = startsLine (c == '\n') s := by
  cases s with
  | nil => rfl
  | cons d s => simp [startsLine, List.getLast?_cons]

theorem startsLine_of_inLine (some : s ≠ []) (inLine : '\n' ∉ s) : startsLine fresh s = false := by
  obtain ⟨c, last⟩ := Option.ne_none_iff_exists'.mp (mt List.getLast?_eq_none_iff.mp some)
  have other : c ≠ '\n' := by
    rintro rfl
    exact inLine (List.mem_of_getLast? last)
  simp [startsLine, last, other]

theorem rewriteFrom_skip (s more : List Char) (fresh : Bool) :
    rule.rewriteFrom s.length fresh (s ++ more) = rule.rewriteFrom 0 (startsLine fresh s) more := by
  induction s generalizing fresh with
  | nil => rfl
  | cons c s ih =>
    rw [List.length_cons, List.cons_append, rewriteFrom, ih, startsLine_cons]

theorem rewriteFrom_cons (bound : LineBound rule) (c : Char) (s : List Char) :
    rule.rewriteFrom 0 false (c :: s) = c :: rule.rewriteFrom 0 (c == '\n') s := by
  rw [rewriteFrom, bound.anchored]
  rfl

theorem rewriteFrom_inside (bound : LineBound rule) (inLine : '\n' ∉ s) (more : List Char) :
    rule.rewriteFrom 0 false (s ++ more) = s ++ rule.rewriteFrom 0 false more := by
  induction s with
  | nil => rfl
  | cons c s ih =>
    obtain ⟨other, rest⟩ : '\n' ≠ c ∧ '\n' ∉ s := by simpa using inLine
    have notFeed : (c == '\n') = false := by simpa using Ne.symm other
    rw [List.cons_append, rewriteFrom_cons bound, notFeed, ih rest, List.cons_append]

theorem rewriteFrom_line (bound : LineBound rule) (inLine : '\n' ∉ line) (some : line ≠ [])
    (ends : EndsLine more) :
    rule.rewriteFrom 0 true (line ++ more) =
      rule.rewriteLine line ++ rule.rewriteFrom 0 false more := by
  obtain ⟨c, s, rfl⟩ := List.exists_cons_of_ne_nil some
  have readings := Shape.readings_append bound.inLine ends true (c :: s)
  rw [List.cons_append] at readings ⊢
  rw [rewriteFrom, readings, rewriteLine, List.head?_map]
  cases first : (rule.shape.readings true (c :: s)).head? with
  | none =>
    obtain ⟨other, rest⟩ : '\n' ≠ c ∧ '\n' ∉ s := by simpa using inLine
    have notFeed : (c == '\n') = false := by simpa using Ne.symm other
    dsimp only [Option.map_none]
    rw [notFeed, rewriteFrom_inside bound rest, List.cons_append]
  | some r =>
    have member := List.mem_of_mem_head? first
    have split := Shape.split_of_mem_readings member
    have taken := bound.some _ r first
    obtain ⟨⟨text, pieces⟩, rest⟩ := r
    dsimp only at split taken
    obtain ⟨d, passage, rfl⟩ := List.exists_cons_of_ne_nil taken
    have same : s = passage ++ rest := (List.cons.inj split).2
    obtain rfl : c = d := (List.cons.inj split).1
    subst same
    have inPassage : '\n' ∉ c :: passage := fun inside =>
      inLine (List.mem_append_left rest inside)
    have inRest : '\n' ∉ rest := fun inside => inLine (List.mem_append_right (c :: passage) inside)
    -- No line starts after the passage, so the rest of the line stays as it is.
    dsimp only [Option.map_some, Reading.goOn]
    rw [List.append_assoc passage, rewriteFrom_skip, ← startsLine_cons true,
      startsLine_of_inLine taken inPassage, rewriteFrom_inside bound inRest, List.append_assoc]

theorem LineBound.readings_nil (bound : LineBound rule) : rule.shape.readings true [] = [] := by
  rw [← List.head?_eq_none_iff, Option.eq_none_iff_forall_ne_some]
  intro r first
  have split := (Shape.First.split first).symm
  exact bound.some [] r first (List.append_eq_nil_iff.mp split).1

theorem rewriteLine_nil (bound : LineBound rule) : rule.rewriteLine [] = [] := by
  rw [rewriteLine, bound.readings_nil]
  rfl

theorem rewriteAll_of_inLine (bound : LineBound rule) (inLine : '\n' ∉ line) :
    rule.rewriteAll line = rule.rewriteLine line := by
  cases line with
  | nil => exact (rewriteLine_nil bound).symm
  | cons c s =>
    have whole := rewriteFrom_line bound inLine (List.cons_ne_nil c s) (.inl rfl)
    rw [List.append_nil, rewriteFrom, List.append_nil] at whole
    exact whole

theorem rewriteAll_append_feed (bound : LineBound rule) (inLine : '\n' ∉ line) (s : List Char) :
    rule.rewriteAll (line ++ '\n' :: s) = rule.rewriteLine line ++ '\n' :: rule.rewriteAll s := by
  have ends : EndsLine ('\n' :: s) := .inr ⟨s, rfl⟩
  cases line with
  | nil =>
    have none := Shape.readings_append bound.inLine ends true []
    rw [bound.readings_nil] at none
    rw [rewriteLine_nil bound, List.nil_append, rewriteAll, rewriteFrom, ← List.nil_append ('\n' :: s),
      none]
    rfl
  | cons c line =>
    rw [rewriteAll, rewriteFrom_line bound inLine (List.cons_ne_nil c line) ends,
      rewriteFrom_cons bound]
    rfl

theorem rewriteAll_eq (bound : LineBound rule) (text : List Char) :
    rule.rewriteAll text = mapBreaks rule.rewriteLine text := by
  induction text using lineInduction with
  | inLine line inLine => rw [rewriteAll_of_inLine bound inLine, mapBreaks_of_inLine _ inLine]
  | feed line rest inLine ih =>
    rw [rewriteAll_append_feed bound inLine, ih, mapBreaks_append_feed _ inLine]

end Rule

end CatalogueViewer.Text
