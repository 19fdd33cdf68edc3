import CatalogueViewer.Proofs.Json.Depth

/-!
# Objects by the texts of their members

An object may be put together from texts of its values, with whatever gaps and spellings they
have.  It is read as the object of the values: `readWithin_objectText`.
-/

namespace CatalogueViewer.Json

def memberText (m : String × String) : List Char := printString m.1 ++ ':' :: m.2.toList

/-- The text of an object, from the names and the texts of its members. -/
def objectText (ms : List (String × String)) : String :=
  String.ofList ('\x7b' :: ([','].intercalate (ms.map memberText) ++ ['\x7d']))

/-- The text of a member is that of its value, within the depth. -/
def SpellsMember (n : Nat) (m : String × String) (v : String × Json) : Prop :=
  m.1 = v.1 ∧ readWithin n m.2.toList = .ok v.2

variable {n : Nat} {m : String × String} {ms : List (String × String)} {v : String × Json}
  {vs : List (String × Json)}

theorem intercalate_cons (mark : Char) (text : List Char) (texts : List (List Char)) :
    [mark].intercalate (text :: texts) = text ++ texts.flatMap fun t => mark :: t := by
  induction texts generalizing text with
  | nil => simp [List.intercalate]
  | cons next rest ih =>
    rw [List.intercalate_cons_cons, ih next]
    simp

theorem skipGap_append_of_blank {gap : List Char} (blank : skipGap gap = []) (s : List Char) :
    skipGap (gap ++ s) = skipGap s := by
  rw [skipGap, List.dropWhile_append]
  simp only [skipGap] at blank
  simp [blank, skipGap]

/-- The text of a member after its opening quote. -/
def namedText (m : String × String) (rest : List Char) : List Char :=
  m.1.toList.flatMap printChar ++ '"' :: ':' :: (m.2.toList ++ rest)

theorem memberText_append (m : String × String) (rest : List Char) :
    memberText m ++ rest = '"' :: namedText m rest := by
  simp [memberText, namedText, printString]

theorem members_spelled {fuel : Nat} {first : Bool} {s tail rest : List Char}
    (next : nextName first s = .ok (.element (namedText m tail))) (spells : SpellsMember n m v)
    (ends : EndsNumeral tail)
    (later : ∀ gap, skipGap gap = [] →
      members string (value n) fuel false (gap ++ tail) = .ok (vs, rest)) :
    members string (value n) (fuel + 1) first s = .ok (v :: vs, rest) := by
  obtain ⟨same, read⟩ := spells
  obtain ⟨gap, front, blank⟩ := readWithin_eq_ok_iff.mp read
  have name : string (namedText m tail) = .ok (m.1, ':' :: (m.2.toList ++ tail)) :=
    string_flatMap_printChar m.1 _
  have mark : colon (':' :: (m.2.toList ++ tail)) = .ok ((), m.2.toList ++ tail) := rfl
  rw [members, next]
  simp [bind, Except.bind, name, mark, value_readsOn ends (Nat.le_refl n) front, later gap blank,
    same]

theorem members_printMore_memberText (each : List.Forall₂ (SpellsMember n) ms vs) {fuel : Nat}
    (enough : ms.length < fuel) {gap : List Char} (blank : skipGap gap = []) (rest : List Char) :
    members string (value n) fuel false (gap ++ printMore memberText '\x7d' ms rest) =
      .ok (vs, rest) := by
  induction each generalizing fuel gap with
  | nil =>
    obtain ⟨fuel, rfl⟩ := Nat.exists_eq_succ_of_ne_zero (Nat.ne_of_gt enough)
    have ended : nextName false (gap ++ '\x7d' :: rest) = .ok (.closed rest) :=
      nextName_eq_ok_iff.mpr (.closed (skipGap_append_of_blank blank _))
    rw [printMore, List.flatMap_nil, List.nil_append, members, ended]
  | @cons m v ms vs spells _ ih =>
    obtain ⟨fuel, rfl⟩ := Nat.exists_eq_succ_of_ne_zero (Nat.ne_zero_of_lt enough)
    have next : nextName false (gap ++ ',' :: '"' :: namedText m (printMore memberText '\x7d' ms
        rest)) = .ok (.element (namedText m (printMore memberText '\x7d' ms rest))) :=
      nextName_eq_ok_iff.mpr (.later (skipGap_append_of_blank blank _) rfl)
    rw [printMore_cons, memberText_append]
    exact members_spelled next spells (endsNumeral_printMore memberText (by decide) ms rest)
      fun gap blank => ih (Nat.lt_of_succ_lt_succ enough) blank

/-- An object is one level deeper than the texts of its values. -/
theorem readWithin_objectText (each : List.Forall₂ (SpellsMember n) ms vs) :
    readWithin (n + 1) (objectText ms).toList = .ok (ofMembers vs) := by
  have inside : members string (value n)
      (([','].intercalate (ms.map memberText) ++ ['\x7d']).length + 1) true
      ([','].intercalate (ms.map memberText) ++ ['\x7d']) = .ok (vs, []) := by
    cases each with
    | nil => rfl
    | @cons m v ms vs spells others =>
      have text : [','].intercalate ((m :: ms).map memberText) ++ ['\x7d'] =
          '"' :: namedText m (printMore memberText '\x7d' ms []) := by
        rw [List.map_cons, intercalate_cons, ← memberText_append, printMore, List.append_assoc,
          List.flatMap_map]
      have enough : ms.length < (namedText m (printMore memberText '\x7d' ms [])).length + 1 := by
        have short := length_lt_printMore memberText '\x7d' ms []
        simp only [namedText, List.length_append, List.length_cons]
        omega
      rw [text]
      have next : nextName true ('"' :: namedText m (printMore memberText '\x7d' ms [])) =
          .ok (.element (namedText m (printMore memberText '\x7d' ms []))) := rfl
      exact members_spelled next spells
        (endsNumeral_printMore memberText (by decide) ms [])
        fun gap blank => members_printMore_memberText others enough blank []
  rw [readWithin_eq_ok_iff]
  refine ⟨[], ?_, rfl⟩
  rw [objectText, String.toList_ofList, value, skipGap_cons rfl]
  simp only [inside, bind, Except.bind]

end CatalogueViewer.Json
