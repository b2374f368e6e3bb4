import Mathlib.Data.String.Basic

namespace TemplateWiring.Text

def bytes (s : String) : List UInt8 := s.toUTF8.data.toList

theorem bytes_eq (s : String) : bytes s = s.toList.flatMap String.utf8EncodeChar := by
  have encoded : s.toByteArray = s.toList.utf8Encode := by
    rw [← String.toByteArray_ofList, String.ofList_toList]
  rw [bytes, String.toUTF8_eq_toByteArray, encoded, List.utf8Encode, List.toList_data_toByteArray]

/-- The last `n` digits of a number in base 64, each in a byte that continues a character. -/
def trail : Nat → Nat → List UInt8
  | 0, _ => []
  | n + 1, v => UInt8.ofNat (v / 64 ^ n % 64 + 128) :: trail n v

/-- The numbers of the characters that take `n` bytes besides the first, which is counted from
`start`. -/
inductive Width : (n start v : Nat) → Prop
  | one {v : Nat} (high : v < 128) : Width 0 0 v
  | two {v : Nat} (low : 128 ≤ v) (high : v < 2048) : Width 1 192 v
  | three {v : Nat} (low : 2048 ≤ v) (high : v < 65536) : Width 2 224 v
  | four {v : Nat} (low : 65536 ≤ v) (high : v < 1114112) : Width 3 240 v

theorem encoded_eq (c : Char) : ∃ n start, Width n start c.val.toNat ∧
    String.utf8EncodeChar c =
      UInt8.ofNat (start + c.val.toNat / 64 ^ n) :: trail n c.val.toNat := by
  have bound : c.val.toNat < 1114112 := by
    have valid := c.valid
    simp only [UInt32.isValidChar, Nat.isValidChar] at valid
    omega
  unfold String.utf8EncodeChar
  generalize c.val.toNat = v at bound
  dsimp only
  by_cases one : v ≤ 127
  · refine ⟨0, 0, .one (by omega), ?_⟩
    simp [one, trail]
  by_cases two : v ≤ 2047
  · refine ⟨1, 192, .two (by omega) (by omega), ?_⟩
    have lead : v / 64 % 32 + 192 = 192 + v / 64 := by omega
    simp [one, two, trail, lead]
  by_cases three : v ≤ 65535
  · refine ⟨2, 224, .three (by omega) (by omega), ?_⟩
    have lead : v / 4096 % 16 + 224 = 224 + v / 4096 := by omega
    simp [one, two, three, trail, lead]
  · refine ⟨3, 240, .four (by omega) (by omega), ?_⟩
    have lead : v / 262144 % 8 + 240 = 240 + v / 262144 := by omega
    simp [one, two, three, trail, lead]

theorem cons_lt_cons {a b : Nat} (inside : a < 256) (inside' : b < 256) {front back : List UInt8}
    (less : a < b ∨ a = b ∧ front < back) : UInt8.ofNat a :: front < UInt8.ofNat b :: back := by
  rw [List.cons_lt_cons_iff]
  rcases less with less | ⟨same, later⟩
  · left
    rw [UInt8.lt_iff_toNat_lt, UInt8.toNat_ofNat', UInt8.toNat_ofNat', Nat.mod_eq_of_lt inside,
      Nat.mod_eq_of_lt inside']
    exact less
  · exact .inr ⟨congrArg UInt8.ofNat same, later⟩

theorem trail_lt {n v w : Nat} (less : v % 64 ^ n < w % 64 ^ n) (front back : List UInt8) :
    trail n v ++ front < trail n w ++ back := by
  induction n with
  | zero => omega
  | succ n ih =>
      rw [Nat.mod_pow_succ, Nat.mod_pow_succ] at less
      have inside : v % 64 ^ n < 64 ^ n := Nat.mod_lt _ (Nat.pow_pos (by decide))
      have inside' : w % 64 ^ n < 64 ^ n := Nat.mod_lt _ (Nat.pow_pos (by decide))
      have ordered : v / 64 ^ n % 64 ≤ w / 64 ^ n % 64 := by
        apply Decidable.byContradiction
        intro greater
        have carried := Nat.mul_le_mul_left (64 ^ n) (Nat.not_le.mp greater)
        rw [Nat.mul_succ] at carried
        omega
      apply cons_lt_cons (by omega) (by omega)
      rcases Nat.lt_or_eq_of_le ordered with digit | digit
      · left
        omega
      · right
        rw [digit] at less
        exact ⟨by rw [digit], ih (by omega)⟩

variable {n m start start' v w : Nat}

theorem Width.inside (width : Width n start v) : start + v / 64 ^ n < 256 := by
  cases width <;> omega

theorem Width.compare (left : Width n start v) (right : Width m start' w) (less : v < w) :
    (n = m ∧ start = start') ∨ start + v / 64 ^ n < start' + w / 64 ^ m := by
  cases left <;> cases right <;> omega

/-- A greater character has a greater form, whatever follows. -/
theorem encoded_lt {c d : Char} (less : c < d) (front back : List UInt8) :
    String.utf8EncodeChar c ++ front < String.utf8EncodeChar d ++ back := by
  have below : c.val.toNat < d.val.toNat := less
  obtain ⟨n, start, width, form⟩ := encoded_eq c
  obtain ⟨m, start', width', form'⟩ := encoded_eq d
  rw [form, form']
  generalize c.val.toNat = v at below width
  generalize d.val.toNat = w at below width'
  apply cons_lt_cons width.inside width'.inside
  rcases width.compare width' below with ⟨rfl, rfl⟩ | lead
  · -- Where both take the same number of bytes, the first digit decides, or else the rest.
    have ordered : v / 64 ^ n ≤ w / 64 ^ n := Nat.div_le_div_right (Nat.le_of_lt below)
    rcases Nat.lt_or_eq_of_le ordered with digit | digit
    · left
      omega
    · right
      have whole := Nat.div_add_mod v (64 ^ n)
      have whole' := Nat.div_add_mod w (64 ^ n)
      rw [digit] at whole
      exact ⟨by rw [digit], trail_lt (by omega) front back⟩
  · exact .inl lead

theorem flatMap_lt {s t : List Char} (less : s < t) :
    s.flatMap String.utf8EncodeChar < t.flatMap String.utf8EncodeChar := by
  induction s generalizing t with
  | nil =>
      cases t with
      | nil => exact absurd less (List.lt_irrefl [])
      | cons d t =>
          obtain ⟨n, start, _, form⟩ := encoded_eq d
          rw [List.flatMap_cons, form]
          exact List.nil_lt_cons _ _
  | cons c s ih =>
      cases t with
      | nil => cases less
      | cons d t =>
          rw [List.flatMap_cons, List.flatMap_cons]
          rcases List.cons_lt_cons_iff.mp less with first | ⟨same, later⟩
          · exact encoded_lt first _ _
          · rw [same]
            exact List.append_left_lt (ih later)

theorem bytes_lt_of_lt {s t : String} (less : s < t) : bytes s < bytes t := by
  rw [bytes_eq, bytes_eq]
  exact flatMap_lt (String.lt_iff_toList_lt.mp less)

theorem bytes_lt_iff {s t : String} : bytes s < bytes t ↔ s < t := by
  constructor
  · intro less
    rcases lt_trichotomy s t with found | same | greater
    · exact found
    · rw [same] at less
      exact absurd less (List.lt_irrefl _)
    · exact absurd less (List.lt_asymm (bytes_lt_of_lt greater))
  · exact bytes_lt_of_lt

theorem bytes_le_iff {s t : String} : bytes s ≤ bytes t ↔ s ≤ t := by
  rw [← List.not_lt, bytes_lt_iff, not_lt]

end TemplateWiring.Text
