import Mathlib.Data.List.TakeDrop
import TemplateWiring.Json.Scan

namespace TemplateWiring.Json

/-- What a text may go on with after a value: it ends, or the collection goes on or is closed. -/
inductive Ends : List Char → Prop where
  | done : Ends []
  | comma (s : List Char) : Ends (',' :: s)
  | list (s : List Char) : Ends (']' :: s)
  | object (s : List Char) : Ends ('\x7d' :: s)

namespace Numeral

def InRange (n : Int) : Prop := -(limit : Int) ≤ 2 * n ∧ n < limit

variable {ds rest : List Char}

theorem digits_append (all : ∀ c ∈ ds, c.isDigit = true) (ends : Ends rest) :
    digits (ds ++ rest) = (ds, rest) := by
  have stop : rest.takeWhile Char.isDigit = [] ∧ rest.dropWhile Char.isDigit = rest := by
    cases ends <;> exact ⟨rfl, rfl⟩
  rw [digits, List.span_eq_takeWhile_dropWhile, List.takeWhile_append_of_pos all,
    List.dropWhile_append_of_pos all, stop.1, stop.2, List.append_nil]

theorem toDigits_leading (n : Nat) (positive : 0 < n) :
    ∃ c ds, Nat.toDigits 10 n = c :: ds ∧ c ≠ '0' := by
  induction n using Nat.strongRecOn with
  | ind n ih =>
      rw [Nat.toDigits_eq_if (by decide)]
      split
      next => exact ⟨n.digitChar, [], rfl, fun zero => by simp at zero; omega⟩
      next large =>
        obtain ⟨c, ds, eq, lead⟩ := ih (n / 10) (by omega) (by omega)
        exact ⟨c, ds ++ [(n % 10).digitChar], by rw [eq, List.cons_append], lead⟩

theorem splitWhole_toDigits (n : Nat) (ends : Ends rest) :
    splitWhole (Nat.toDigits 10 n ++ rest) = .ok (Nat.toDigits 10 n, rest) := by
  rcases Nat.eq_zero_or_pos n with rfl | positive
  · cases ends <;> rfl
  · obtain ⟨c, ds, eq, lead⟩ := toDigits_leading n positive
    have taken : digits (c :: (ds ++ rest)) = (c :: ds, rest) := by
      rw [← List.cons_append, ← eq]
      exact digits_append (fun _ => Nat.isDigit_of_mem_toDigits (by decide) (by decide)) ends
    rw [eq, List.cons_append, splitWhole.eq_def]
    split
    next same => exact absurd (List.cons.inj same).1 lead
    next => simp [taken]

theorem splitFraction_ends (ends : Ends rest) : splitFraction rest = .ok (none, rest) := by
  cases ends <;> rfl

theorem splitExponent_ends (ends : Ends rest) : splitExponent rest = .ok (none, rest) := by
  cases ends <;> rfl

theorem split_negative (n : Nat) (ends : Ends rest) :
    split ('-' :: (Nat.toDigits 10 n ++ rest)) =
      .ok (⟨true, Nat.toDigits 10 n, none, none⟩, rest) := by
  simp only [split, splitWhole_toDigits n ends, splitFraction_ends ends, splitExponent_ends ends,
    bind, Except.bind, pure, Except.pure]

theorem split_toDigits (n : Nat) (ends : Ends rest) :
    split (Nat.toDigits 10 n ++ rest) = .ok (⟨false, Nat.toDigits 10 n, none, none⟩, rest) := by
  obtain ⟨c, ds, eq⟩ := List.exists_cons_of_ne_nil (Nat.toDigits_ne_nil (n := n) (b := 10))
  have unsigned : c ≠ '-' := by
    rintro rfl
    exact absurd (Nat.isDigit_of_mem_toDigits (b := 10) (n := n) (c := '-') (by decide) (by decide)
      (by simp [eq])) (by decide)
  have whole := splitWhole_toDigits n ends
  rw [eq, List.cons_append] at whole
  rw [eq, List.cons_append]
  simp [split, unsigned, whole, splitFraction_ends ends, splitExponent_ends ends,
    bind, Except.bind, pure, Except.pure]

theorem natural_toDigits (n : Nat) : natural (Nat.toDigits 10 n) = n := by
  calc natural (Nat.toDigits 10 n)
      = Nat.ofDigitChars 10 (Nat.toDigits 10 n) 0 := by
        simp only [natural, Nat.ofDigitChars_eq_foldl, digitValue, Nat.mul_comm]
    _ = n := Nat.ofDigitChars_ten_toDigits

theorem value_natural {n : Nat} (small : n < limit) :
    value ⟨false, Nat.toDigits 10 n, none, none⟩ = .int n := by
  simp [value, integer?, natural_toDigits, small]

theorem value_negative {n : Nat} (positive : 0 < n) (small : 2 * n ≤ limit) :
    value ⟨true, Nat.toDigits 10 n, none, none⟩ = .int (-n) := by
  simp [value, integer?, natural_toDigits, positive, small]

theorem toList_negSucc (n : Nat) :
    (toString (Int.negSucc n)).toList = '-' :: Nat.toDigits 10 (n + 1) := by
  change ("-" ++ (n + 1).repr).toList = _
  rw [String.toList_append, Nat.repr_eq_ofList_toDigits]
  exact congrArg ('-' :: ·) String.toList_ofList

theorem number_toString {n : Int} (range : InRange n) (ends : Ends rest) :
    Scan.number ((toString n).toList ++ rest) = (.int n, some rest) := by
  obtain ⟨low, high⟩ := range
  cases n with
  | ofNat n =>
      have text : (toString (Int.ofNat n)).toList = Nat.toDigits 10 n := String.toList_ofList
      rw [text, Scan.number, split_toDigits n ends]
      exact congrArg (·, some rest) (value_natural (Int.ofNat_lt.mp high))
  | negSucc n =>
      rw [toList_negSucc, List.cons_append, Scan.number, split_negative _ ends]
      exact congrArg (·, some rest) (value_negative n.succ_pos (by omega))

end Numeral

end TemplateWiring.Json
