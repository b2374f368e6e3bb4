import TemplateWiring.Json.Scan

namespace TemplateWiring.Json

theorem hexValue_hexDigit : ∀ d < 16, Text.hexValue? (hexDigit d) = some d := by
  decide

namespace Scan

theorem hexEscape_control {n : Nat} (small : n < 32) (s : List Char) :
    hexEscape ('0' :: '0' :: hexDigit (n / 16) :: hexDigit (n % 16) :: s) = .ok (n, s) := by
  have zero : Text.hexValue? '0' = some 0 := hexValue_hexDigit 0 (by decide)
  have number : Text.hexNumber? ['0', '0', hexDigit (n / 16), hexDigit (n % 16)] = some n := by
    simp [Text.hexNumber?, zero, hexValue_hexDigit (n / 16) (by omega),
      hexValue_hexDigit (n % 16) (by omega)]
    omega
  simp only [hexEscape, number]

theorem unicodeEscape_control {c : Char} (small : c.toNat < 32) (s : List Char) :
    unicodeEscape ('0' :: '0' :: hexDigit (c.toNat / 16) :: hexDigit (c.toNat % 16) :: s) =
      .ok (c, s) := by
  have leading : isLeading c.toNat = false := by
    simp [isLeading]
    omega
  have trailing : isTrailing c.toNat = false := by
    simp [isTrailing]
    omega
  simp [unicodeEscape, hexEscape_control small, leading, trailing, bind, Except.bind, pure,
    Except.pure]

/-- How a character is written: as a letter after a backslash, by its number, or as it is. -/
inductive Written (c : Char) : List Char → Prop where
  | letter {e : Char} (stands : simpleEscape e = some c) : Written c ['\\', e]
  | number (small : c.toNat < 32) :
      Written c ['\\', 'u', '0', '0', hexDigit (c.toNat / 16), hexDigit (c.toNat % 16)]
  | plain (quote : c ≠ '"') (backslash : c ≠ '\\') (large : ¬ c.toNat < 32) : Written c [c]

theorem written_escaped (c : Char) : Written c (escaped c) := by
  by_cases short : c ∈ ['"', '\\', '\n', '\r', '\t', '\x08', '\x0c']
  · simp only [List.mem_cons, List.not_mem_nil, or_false] at short
    rcases short with rfl | rfl | rfl | rfl | rfl | rfl | rfl <;> exact .letter rfl
  · simp only [List.mem_cons, List.not_mem_nil, or_false, not_or] at short
    obtain ⟨quote, backslash, line, carriage, tab, back, form⟩ := short
    rw [escaped, if_neg quote, if_neg backslash, if_neg line, if_neg carriage, if_neg tab,
      if_neg back, if_neg form]
    split
    next small => exact .number small
    next large => exact .plain quote backslash large

def push (c : Char) (read : List Char × List Char) : List Char × List Char :=
  (c :: read.1, read.2)

theorem readString_written {c : Char} {text : List Char} (written : Written c text) (fuel : Nat)
    (s : List Char) : readString (fuel + 1) (text ++ s) = (readString fuel s).map (push c) := by
  cases written with
  | @letter e stands =>
      have other : e ≠ 'u' := by
        rintro rfl
        cases stands
      simp only [List.cons_append, List.nil_append, readString, Char.reduceEq, if_true, if_false,
        stands]
      cases readString fuel s <;> rfl
  | number small =>
      simp only [List.cons_append, List.nil_append, readString, Char.reduceEq, if_true, if_false,
        unicodeEscape_control small, bind, Except.bind]
      cases readString fuel s <;> rfl
  | plain quote backslash large =>
      simp only [List.cons_append, List.nil_append, readString, if_neg quote, if_neg backslash,
        if_neg large]
      cases readString fuel s <;> rfl

theorem readString_escaped (cs rest : List Char) (fuel : Nat) (enough : cs.length < fuel) :
    readString fuel (cs.flatMap escaped ++ '"' :: rest) = .ok (cs, rest) := by
  induction cs generalizing fuel with
  | nil =>
      obtain ⟨fuel, rfl⟩ := Nat.exists_eq_add_one.mpr enough
      simp [readString]
  | cons c cs ih =>
      obtain ⟨fuel, rfl⟩ := Nat.exists_eq_add_one.mpr (Nat.zero_lt_of_lt enough)
      rw [List.flatMap_cons, List.append_assoc, readString_written (written_escaped c),
        ih fuel (Nat.lt_of_succ_lt_succ enough)]
      rfl

theorem Written.length_pos {c : Char} {text : List Char} (written : Written c text) :
    0 < text.length := by
  cases written <;> exact Nat.succ_pos _

theorem length_le_escaped (cs : List Char) : cs.length ≤ (cs.flatMap escaped).length := by
  induction cs with
  | nil => exact Nat.le_refl 0
  | cons c cs ih =>
      have one := (written_escaped c).length_pos
      rw [List.flatMap_cons, List.length_append, List.length_cons]
      omega

variable {α : Type}

/-- A text between quotes is read as itself, whatever it is wanted for. -/
theorem string_quoted (whole : String → α) (unreadable : Problem → α)
    (broken : Problem → Problem → α) (text : String) (rest : List Char) :
    string whole unreadable broken (text.toList.flatMap escaped ++ '"' :: rest) =
      (whole text, some rest) := by
  have enough : text.toList.length < (text.toList.flatMap escaped ++ '"' :: rest).length + 1 := by
    have written := length_le_escaped text.toList
    rw [List.length_append]
    omega
  simp only [string, readString_escaped _ _ _ enough, String.ofList_toList]

theorem toList_quoted (text : String) :
    (quoted text).toList = '"' :: (text.toList.flatMap escaped ++ ['"']) := by
  rw [quoted, String.toList_ofList]
  rfl

end Scan

end TemplateWiring.Json
