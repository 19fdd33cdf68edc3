import CatalogueViewer.Proofs.Json.Scalars

/-!
# Reading values back

The compact text of a value is read as the value that was written, with the members of each object
in the order of their names: `read_compact`.
-/

namespace CatalogueViewer.Json

/-- The numbers in a value are whole and of 64 bits. -/
inductive Plain : Json → Prop where
  | null : Plain .null
  | bool (b : Bool) : Plain (.bool b)
  | int {n : Int} (lower : -n ≤ (wordLimit / 2 : Nat)) (upper : n < wordLimit) : Plain (.int n)
  | str (text : String) : Plain (.str text)
  | arr {items : List Json} (each : ∀ item ∈ items, Plain item) : Plain (.arr items)
  | obj {members : List (String × Json)} (each : ∀ member ∈ members, Plain member.2) :
    Plain (.obj members)

mutual

/-- How many containers enclose each other. -/
def nesting : Json → Nat
  | .arr items => itemsNesting items + 1
  | .obj members => membersNesting members + 1
  | _ => 0

def itemsNesting : List Json → Nat
  | [] => 0
  | item :: rest => max item.nesting (itemsNesting rest)

def membersNesting : List (String × Json) → Nat
  | [] => 0
  | (_, v) :: rest => max v.nesting (membersNesting rest)

end

mutual

/-- The value with the members of each object as they are stored when they are read. -/
def stored : Json → Json
  | .arr items => .arr (storedItems items)
  | .obj members => ofMembers (storedMembers members)
  | v => v

def storedItems : List Json → List Json
  | [] => []
  | item :: rest => item.stored :: storedItems rest

def storedMembers : List (String × Json) → List (String × Json)
  | [] => []
  | (name, v) :: rest => (name, v.stored) :: storedMembers rest

end

theorem nesting_le_of_mem_items {items : List Json} {item : Json} (member : item ∈ items) :
    item.nesting ≤ itemsNesting items := by
  induction items with
  | nil => cases member
  | cons first rest ih =>
    rw [itemsNesting]
    rcases List.mem_cons.mp member with rfl | later
    · exact Nat.le_max_left _ _
    · exact Nat.le_trans (ih later) (Nat.le_max_right _ _)

theorem membersNesting_eq (members : List (String × Json)) :
    membersNesting members = itemsNesting (members.map Prod.snd) := by
  induction members with
  | nil => rfl
  | cons m rest ih => rw [membersNesting, List.map_cons, itemsNesting, ih]

theorem nesting_le_of_mem_members {members : List (String × Json)} {m : String × Json}
    (member : m ∈ members) : m.2.nesting ≤ membersNesting members := by
  rw [membersNesting_eq]
  exact nesting_le_of_mem_items (List.mem_map_of_mem member)

/-! ### The first character of a value -/

theorem skipGap_cons {c : Char} (solid : isGap c = false) (s : List Char) :
    skipGap (c :: s) = c :: s := List.dropWhile_cons_of_neg (by simp [solid])

theorem ne_of_isDigit {c d : Char} (digit : c.isDigit = true) (other : d.isDigit = false) :
    c ≠ d := by
  rintro rfl
  rw [digit] at other
  cases other

theorem isGap_of_isDigit {c : Char} (digit : c.isDigit = true) : isGap c = false := by
  have apart : ∀ d : Char, d.isDigit = false → c ≠ d := fun d => ne_of_isDigit digit
  simp [isGap, apart ' ' rfl, apart '\t' rfl, apart '\n' rfl, apart '\r' rfl]

theorem toDigits_digit_cons (n : Nat) :
    ∃ c ds, Nat.toDigits 10 n = c :: ds ∧ c.isDigit = true := by
  obtain ⟨c, ds, split⟩ := List.exists_cons_of_ne_nil (Nat.toDigits_ne_nil (n := n) (b := 10))
  exact ⟨c, ds, split, isDigit_of_mem_toDigits (n := n) (by rw [split]; exact List.mem_cons_self)⟩

theorem print_eq_cons {v : Json} (plain : v.Plain) :
    ∃ c s, v.print = c :: s ∧ isGap c = false ∧ c ≠ ']' := by
  cases plain with
  | null => exact ⟨_, _, rfl, rfl, by decide⟩
  | bool b => cases b <;> exact ⟨_, _, rfl, rfl, by decide⟩
  | int =>
    rw [print, printInt]
    split
    · exact ⟨_, _, rfl, rfl, by decide⟩
    · next n _ _ _ =>
      obtain ⟨c, ds, split, digit⟩ := toDigits_digit_cons n.natAbs
      exact ⟨c, ds, split, isGap_of_isDigit digit, ne_of_isDigit digit rfl⟩
  | str => exact ⟨_, _, rfl, rfl, by decide⟩
  | arr => exact ⟨_, _, rfl, rfl, by decide⟩
  | obj => exact ⟨_, _, rfl, rfl, by decide⟩

/-! ### Scalars -/

theorem value_eq_scalar {c : Char} (solid : isGap c = false) (noList : c ≠ '[')
    (noObject : c ≠ '\x7b') (n : Nat) (s : List Char) : value n (c :: s) = scalar (c :: s) := by
  cases n with
  | zero => rfl
  | succ n =>
    rw [value, skipGap_cons solid]
    split
    · next same => exact absurd (List.cons.inj same).1 noList
    · next same => exact absurd (List.cons.inj same).1 noObject
    · rfl

theorem scalar_digit {c : Char} (digit : c.isDigit = true) (s : List Char) :
    scalar (c :: s) = number false (c :: s) := by
  have apart : ∀ d : Char, d.isDigit = false → c ≠ d := fun d => ne_of_isDigit digit
  rw [scalar, skipGap_cons (isGap_of_isDigit digit)]
  split
  · next impossible => cases impossible
  · next same => exact absurd (List.cons.inj same).1 (apart 'n' rfl)
  · next same => exact absurd (List.cons.inj same).1 (apart 't' rfl)
  · next same => exact absurd (List.cons.inj same).1 (apart 'f' rfl)
  · next same => exact absurd (List.cons.inj same).1 (apart '"' rfl)
  · next same => exact absurd (List.cons.inj same).1 (apart '-' rfl)
  · next same =>
    obtain ⟨rfl, rfl⟩ := List.cons.inj same
    rw [if_pos digit]

theorem value_printInt {n : Int} (lower : -n ≤ (wordLimit / 2 : Nat)) (upper : n < wordLimit)
    (nesting : Nat) {rest : List Char} (ends : EndsNumeral rest) :
    value nesting (printInt n ++ rest) = .ok (.int n, rest) := by
  unfold printInt
  split
  · next negative =>
    rw [List.cons_append, value_eq_scalar rfl (by decide) (by decide)]
    have read := number_toDigits_negative (n := n.natAbs) (by omega) (by omega) ends
    rw [show -(n.natAbs : Int) = n by omega] at read
    exact read
  · next whole =>
    obtain ⟨c, ds, split, digit⟩ := toDigits_digit_cons n.natAbs
    have read := number_toDigits (n := n.natAbs) (by omega) ends
    rw [show (n.natAbs : Int) = n by omega, split, List.cons_append] at read
    rw [split, List.cons_append, value_eq_scalar (isGap_of_isDigit digit)
      (ne_of_isDigit digit rfl) (ne_of_isDigit digit rfl), scalar_digit digit, read]

/-! ### Containers -/

theorem printItems_cons (item : Json) (rest : List Json) :
    printItems (item :: rest) = item.print ++ rest.flatMap fun v => ',' :: v.print := by
  induction rest generalizing item with
  | nil => rw [printItems, List.flatMap_nil, List.append_nil]
  | cons next rest ih => rw [printItems, ih next, List.flatMap_cons, List.cons_append]

def printMember (m : String × Json) : List Char := printString m.1 ++ ':' :: m.2.print

theorem printMembers_cons (m : String × Json) (rest : List (String × Json)) :
    printMembers (m :: rest) = printMember m ++ rest.flatMap fun m => ',' :: printMember m := by
  induction rest generalizing m with
  | nil => rw [printMembers, List.flatMap_nil, List.append_nil, printMember]
  | cons next rest ih =>
    rw [printMembers, ih next]
    simp [printMember]

theorem length_le_flatMap_cons {α : Type} (c : Char) (write : α → List Char) (xs : List α) :
    xs.length ≤ (xs.flatMap fun x => c :: write x).length := by
  induction xs with
  | nil => exact Nat.le_refl 0
  | cons x xs ih =>
    rw [List.flatMap_cons, List.length_append, List.length_cons, List.length_cons]
    omega

/-- What the elements of a container are written as after the first one, and its end. -/
def printMore {α : Type} (write : α → List Char) (closing : Char) (xs : List α)
    (rest : List Char) : List Char :=
  (xs.flatMap fun x => ',' :: write x) ++ closing :: rest

theorem printMore_cons {α : Type} (write : α → List Char) (closing : Char) (x : α) (xs : List α)
    (rest : List Char) : printMore write closing (x :: xs) rest =
      ',' :: (write x ++ printMore write closing xs rest) := by
  simp [printMore]

theorem length_lt_printMore {α : Type} (write : α → List Char) (closing : Char) (xs : List α)
    (rest : List Char) : xs.length < (printMore write closing xs rest).length := by
  have short := length_le_flatMap_cons ',' write xs
  rw [printMore, List.length_append, List.length_cons]
  omega

theorem endsNumeral_printMore {α : Type} (write : α → List Char) {closing : Char}
    (mark : closing ∈ [',', ']', '\x7d']) (xs : List α) (rest : List Char) :
    EndsNumeral (printMore write closing xs rest) := by
  cases xs with
  | nil => exact endsNumeral_cons mark rest
  | cons x xs =>
    rw [printMore_cons]
    exact endsNumeral_cons (by decide) _

theorem storedMembers_eq_map (members : List (String × Json)) :
    storedMembers members = members.map fun m => (m.1, m.2.stored) := by
  induction members with
  | nil => rfl
  | cons m rest ih => rw [storedMembers, ih, List.map_cons]

/-- At depth `n` the reader takes the text of a value off the front of any text. -/
def ReadsBack (n : Nat) (v : Json) : Prop :=
  ∀ {rest : List Char}, EndsNumeral rest → value n (v.print ++ rest) = .ok (v.stored, rest)

theorem nextItem_print {v : Json} (plain : Plain v) (rest : List Char) :
    nextItem true (v.print ++ rest) = .ok (.element (v.print ++ rest)) ∧
      nextItem false (',' :: (v.print ++ rest)) = .ok (.element (v.print ++ rest)) := by
  obtain ⟨c, s, front, solid, noEnd⟩ := print_eq_cons plain
  have comma : skipGap (',' :: c :: (s ++ rest)) = ',' :: c :: (s ++ rest) := skipGap_cons rfl _
  rw [front, List.cons_append, nextItem, nextItem, comma]
  simp [skipGap_cons solid, noEnd]

theorem items_element {n fuel : Nat} {first : Bool} {s tail rest : List Char} {v : Json}
    {more : List Json} (next : nextItem first s = .ok (.element (v.print ++ tail)))
    (reads : ReadsBack n v) (ends : EndsNumeral tail)
    (later : items (value n) fuel false tail = .ok (more, rest)) :
    items (value n) (fuel + 1) first s = .ok (v.stored :: more, rest) := by
  rw [items, next]
  simp [bind, Except.bind, reads ends, later]

theorem items_printMore {n : Nat} {more : List Json} (plain : ∀ v ∈ more, Plain v)
    (each : ∀ v ∈ more, ReadsBack n v) {fuel : Nat} (enough : more.length < fuel)
    (rest : List Char) :
    items (value n) fuel false (printMore print ']' more rest) = .ok (storedItems more, rest) := by
  induction more generalizing fuel with
  | nil =>
    obtain ⟨fuel, rfl⟩ := Nat.exists_eq_succ_of_ne_zero (Nat.ne_of_gt enough)
    rfl
  | cons v more ih =>
    obtain ⟨fuel, rfl⟩ := Nat.exists_eq_succ_of_ne_zero (Nat.ne_zero_of_lt enough)
    obtain ⟨plainFirst, plainMore⟩ := List.forall_mem_cons.mp plain
    obtain ⟨readsFirst, readsMore⟩ := List.forall_mem_cons.mp each
    have later := ih plainMore readsMore (Nat.lt_of_succ_lt_succ enough)
    rw [printMore_cons, storedItems]
    exact items_element (nextItem_print plainFirst _).2 readsFirst
      (endsNumeral_printMore print (by decide) more rest) later

theorem readsBack_arr {n : Nat} {items : List Json} (plain : ∀ v ∈ items, Plain v)
    (each : ∀ v ∈ items, ReadsBack n v) : ReadsBack (n + 1) (.arr items) := by
  intro rest _
  have read : Json.items (value n) ((printItems items ++ ']' :: rest).length + 1) true
      (printItems items ++ ']' :: rest) = .ok (storedItems items, rest) := by
    cases items with
    | nil => rfl
    | cons v more =>
      obtain ⟨plainFirst, plainMore⟩ := List.forall_mem_cons.mp plain
      obtain ⟨readsFirst, readsMore⟩ := List.forall_mem_cons.mp each
      have text : printItems (v :: more) ++ ']' :: rest =
          v.print ++ printMore print ']' more rest := by
        rw [printItems_cons, printMore, List.append_assoc]
      have enough : more.length < (v.print ++ printMore print ']' more rest).length := by
        have short := length_lt_printMore print ']' more rest
        rw [List.length_append]
        omega
      rw [text, storedItems]
      exact items_element (nextItem_print plainFirst _).1 readsFirst
        (endsNumeral_printMore print (by decide) more rest)
        (items_printMore plainMore readsMore enough rest)
  rw [print, List.cons_append, List.append_assoc, List.singleton_append, value,
    skipGap_cons rfl]
  simp only [bind, Except.bind, read, stored]

/-- The text of a member after its opening quote. -/
def printNamed (m : String × Json) (rest : List Char) : List Char :=
  m.1.toList.flatMap printChar ++ '"' :: ':' :: (m.2.print ++ rest)

theorem printMember_append (m : String × Json) (rest : List Char) :
    printMember m ++ rest = '"' :: printNamed m rest := by
  simp [printMember, printString, printNamed]

theorem members_element {n fuel : Nat} {first : Bool} {s tail rest : List Char}
    {m : String × Json} {more : List (String × Json)}
    (next : nextName first s = .ok (.element (printNamed m tail))) (reads : ReadsBack n m.2)
    (ends : EndsNumeral tail)
    (later : members string (value n) fuel false tail = .ok (more, rest)) :
    members string (value n) (fuel + 1) first s = .ok ((m.1, m.2.stored) :: more, rest) := by
  have name : string (printNamed m tail) = .ok (m.1, ':' :: (m.2.print ++ tail)) :=
    string_flatMap_printChar m.1 _
  have mark : colon (':' :: (m.2.print ++ tail)) = .ok ((), m.2.print ++ tail) := rfl
  rw [members, next]
  simp [bind, Except.bind, name, mark, reads ends, later]

theorem members_printMore {n : Nat} {more : List (String × Json)}
    (each : ∀ m ∈ more, ReadsBack n m.2) {fuel : Nat} (enough : more.length < fuel)
    (rest : List Char) :
    members string (value n) fuel false (printMore printMember '\x7d' more rest) =
      .ok (storedMembers more, rest) := by
  induction more generalizing fuel with
  | nil =>
    obtain ⟨fuel, rfl⟩ := Nat.exists_eq_succ_of_ne_zero (Nat.ne_of_gt enough)
    rfl
  | cons m more ih =>
    obtain ⟨fuel, rfl⟩ := Nat.exists_eq_succ_of_ne_zero (Nat.ne_zero_of_lt enough)
    obtain ⟨readsFirst, readsMore⟩ := List.forall_mem_cons.mp each
    have later := ih readsMore (Nat.lt_of_succ_lt_succ enough)
    rw [printMore_cons, printMember_append, storedMembers]
    exact members_element rfl readsFirst
      (endsNumeral_printMore printMember (by decide) more rest) later

theorem readsBack_obj {n : Nat} {members : List (String × Json)}
    (each : ∀ m ∈ members, ReadsBack n m.2) : ReadsBack (n + 1) (.obj members) := by
  intro rest _
  have read : Json.members string (value n)
      ((printMembers members ++ '\x7d' :: rest).length + 1) true
      (printMembers members ++ '\x7d' :: rest) = .ok (storedMembers members, rest) := by
    cases members with
    | nil => rfl
    | cons m more =>
      obtain ⟨readsFirst, readsMore⟩ := List.forall_mem_cons.mp each
      have text : printMembers (m :: more) ++ '\x7d' :: rest =
          printMember m ++ printMore printMember '\x7d' more rest := by
        rw [printMembers_cons, printMore, List.append_assoc]
      have enough : more.length <
          (printMember m ++ printMore printMember '\x7d' more rest).length := by
        have short := length_lt_printMore printMember '\x7d' more rest
        rw [List.length_append]
        omega
      have later := members_printMore readsMore enough rest
      rw [text, storedMembers]
      rw [printMember_append] at later ⊢
      exact members_element rfl readsFirst
        (endsNumeral_printMore printMember (by decide) more rest) later
  rw [print, List.cons_append, List.append_assoc, List.singleton_append, value,
    skipGap_cons rfl]
  simp only [bind, Except.bind, read, stored]

/-- Within the limit of nesting, every value is read back as it is stored. -/
theorem Plain.readsBack {v : Json} (plain : v.Plain) {n : Nat} (shallow : v.nesting ≤ n) :
    ReadsBack n v := by
  induction plain generalizing n with
  | null =>
    intro rest _
    exact value_eq_scalar rfl (by decide) (by decide) n _
  | bool b =>
    intro rest _
    cases b <;> exact value_eq_scalar rfl (by decide) (by decide) n _
  | int lower upper => exact value_printInt lower upper n
  | str text =>
    intro rest _
    rw [print, printString, List.cons_append, List.cons_append, List.append_assoc,
      List.singleton_append, value_eq_scalar rfl (by decide) (by decide), scalar, skipGap_cons rfl]
    simp [bind, Except.bind, string_flatMap_printChar, stored]
  | @arr items plain each =>
    rw [nesting] at shallow
    obtain ⟨n, rfl⟩ := Nat.exists_eq_succ_of_ne_zero (Nat.ne_zero_of_lt shallow)
    refine readsBack_arr plain fun v member => each v member ?_
    exact Nat.le_trans (nesting_le_of_mem_items member) (Nat.le_of_succ_le_succ shallow)
  | @obj members plain each =>
    rw [nesting] at shallow
    obtain ⟨n, rfl⟩ := Nat.exists_eq_succ_of_ne_zero (Nat.ne_zero_of_lt shallow)
    refine readsBack_obj fun m member => each m member ?_
    exact Nat.le_trans (nesting_le_of_mem_members member) (Nat.le_of_succ_le_succ shallow)

theorem read_compact {v : Json} (plain : v.Plain) (shallow : v.nesting ≤ maxNesting) :
    read v.compact.toList = .ok v.stored := by
  have readsBack := plain.readsBack shallow endsNumeral_nil
  rw [List.append_nil] at readsBack
  rw [compact, String.toList_ofList, read, readsBack]
  rfl

end CatalogueViewer.Json
