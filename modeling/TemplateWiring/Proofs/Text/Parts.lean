import TemplateWiring.Text.Blank

namespace TemplateWiring.Text

variable {c : Char} {s front back : List Char}

theorem after?_eq_some {lead rest : List Char} :
    after? lead s = some rest ↔ s = lead ++ rest := by
  induction lead generalizing s with
  | nil => simp [after?, eq_comm]
  | cons a lead ih =>
      cases s with
      | nil => simp [after?]
      | cons b s =>
          rw [after?]
          by_cases same : a = b
          · rw [if_pos same, ih, same, List.cons_append, List.cons.injEq]
            simp
          · rw [if_neg same, List.cons_append, List.cons.injEq]
            simp [Ne.symm same]

theorem before?_eq_some {tail front : List Char} :
    before? tail s = some front ↔ s = front ++ tail := by
  rw [before?, Option.map_eq_some_iff]
  constructor
  · rintro ⟨rest, found, rfl⟩
    rw [← s.reverse_reverse, after?_eq_some.mp found]
    simp
  · rintro rfl
    exact ⟨front.reverse, after?_eq_some.mpr (by simp), front.reverse_reverse⟩

theorem splitLast?_eq_none : splitLast? c s = none ↔ c ∉ s := by
  induction s with
  | nil => simp [splitLast?]
  | cons x s ih =>
      rw [splitLast?, List.mem_cons]
      cases later : splitLast? c s with
      | some parts =>
          have found : c ∈ s := by
            apply Decidable.byContradiction
            intro absent
            rw [ih.mpr absent] at later
            cases later
          simp [found]
      | none =>
          have absent : c ∉ s := ih.mp later
          by_cases here : x = c
          · simp [here]
          · simp [here, absent, Ne.symm here]

theorem splitLast?_append (front : List Char) (last : c ∉ back) :
    splitLast? c (front ++ c :: back) = some (front, back) := by
  induction front with
  | nil => simp [splitLast?, splitLast?_eq_none.mpr last]
  | cons x front ih => rw [List.cons_append, splitLast?, ih]

theorem eq_of_splitLast? (split : splitLast? c s = some (front, back)) :
    s = front ++ c :: back ∧ c ∉ back := by
  induction s generalizing front with
  | nil => cases split
  | cons x s ih =>
      rw [splitLast?] at split
      cases later : splitLast? c s with
      | some parts =>
          obtain ⟨front', back'⟩ := parts
          rw [later] at split
          cases split
          obtain ⟨rebuilt, last⟩ := ih later
          exact ⟨by rw [rebuilt]; rfl, last⟩
      | none =>
          rw [later] at split
          by_cases here : x = c
          · simp only [here, if_true] at split
            cases split
            exact ⟨by rw [here]; rfl, splitLast?_eq_none.mp later⟩
          · simp [here] at split

section trim

/-- A text and what is left of it without the white space at its ends. -/
structure Trims (s kept : List Char) : Prop where
  around : ∃ front back, s = front ++ kept ++ back ∧ ∀ c ∈ front ++ back, isBlank c = true
  first : ∀ c, kept.head? = some c → isBlank c = false
  last : ∀ c, kept.getLast? = some c → isBlank c = false

theorem blank_takeWhile (s : List Char) : ∀ c ∈ s.takeWhile isBlank, isBlank c = true :=
  List.all_eq_true.mp List.all_takeWhile

theorem head_trimStart (s : List Char) (c : Char) (first : (trimStart s).head? = some c) :
    isBlank c = false := by
  have stops := List.head?_dropWhile_not isBlank s
  rw [trimStart] at first
  rwa [first] at stops

theorem trimEnd_eq (s : List Char) : trimEnd s = (trimStart s.reverse).reverse := rfl

theorem trimStart_append (s : List Char) : s.takeWhile isBlank ++ trimStart s = s :=
  List.takeWhile_append_dropWhile

theorem trimEnd_append (s : List Char) : trimEnd s ++ (s.reverse.takeWhile isBlank).reverse = s := by
  rw [trimEnd_eq, ← List.reverse_append, trimStart_append, List.reverse_reverse]

theorem trims_trim (s : List Char) : Trims s (trim s) := by
  have whole := trimEnd_append (trimStart s)
  constructor
  · refine ⟨s.takeWhile isBlank, ((trimStart s).reverse.takeWhile isBlank).reverse, ?_, ?_⟩
    · rw [trim, List.append_assoc, whole, trimStart_append]
    · intro c member
      rw [List.mem_append, List.mem_reverse] at member
      exact member.elim (blank_takeWhile _ c) (blank_takeWhile _ c)
  · intro c first
    apply head_trimStart s
    rw [← whole, List.head?_append]
    exact Option.or_eq_some_iff.mpr (.inl first)
  · intro c last
    rw [trim, trimEnd_eq, List.getLast?_reverse] at last
    exact head_trimStart _ c last

end trim

theorem eq_of_append_toString {lead : String} {i k : Nat}
    (same : lead ++ toString i = lead ++ toString k) : i = k := by
  have suffix : toString i = toString k := (String.append_right_inj lead).mp same
  have digits : Nat.toDigits 10 i = Nat.toDigits 10 k := by
    rw [← Nat.toList_repr, ← Nat.toList_repr]
    exact congrArg String.toList suffix
  calc
    i = Nat.ofDigitChars 10 (Nat.toDigits 10 i) 0 := Nat.ofDigitChars_ten_toDigits.symm
    _ = Nat.ofDigitChars 10 (Nat.toDigits 10 k) 0 := by rw [digits]
    _ = k := Nat.ofDigitChars_ten_toDigits

end TemplateWiring.Text
