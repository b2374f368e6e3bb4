import Mathlib.Data.List.TakeDrop
import TemplateWiring.Proofs.Json.Reading

/-! A text holds no more collections than characters: each is opened by a character of its own, and
what has been read is not read again. -/

namespace TemplateWiring.Json

theorem length_skipSpace (s : List Char) : (skipSpace s).length ≤ s.length :=
  (List.dropWhile_sublist isSpace).length_le

namespace Numeral

theorem length_digits (s : List Char) : (digits s).2.length ≤ s.length := by
  rw [digits, List.span_eq_takeWhile_dropWhile]
  exact (List.dropWhile_sublist _).length_le

theorem length_splitWhole {s ds rest : List Char} (split : splitWhole s = .ok (ds, rest)) :
    rest.length ≤ s.length := by
  unfold splitWhole at split
  split at split
  next tail =>
    split at split
    · split at split
      · cases split
      · cases split
        exact Nat.le_succ _
    · cases split
      exact Nat.zero_le _
  next =>
    have shorter := length_digits s
    dsimp only at split
    split at split
    · cases split
    · cases split
      exact shorter

theorem length_splitFraction {s rest : List Char} {ds : Option (List Char)}
    (split : splitFraction s = .ok (ds, rest)) : rest.length ≤ s.length := by
  unfold splitFraction at split
  split at split
  next tail =>
    have shorter := length_digits tail
    dsimp only at split
    split at split
    · cases split
    · cases split
      exact Nat.le_succ_of_le shorter
  next =>
    cases split
    exact Nat.le_refl _

theorem length_splitExponent {s rest : List Char} {e : Option (Bool × List Char)}
    (split : splitExponent s = .ok (e, rest)) : rest.length ≤ s.length := by
  have counted {negative : Bool} {s : List Char} (read : (if (digits s).1 = [] then
      .error (noDigit (digits s).2) else .ok (some (negative, (digits s).1), (digits s).2)) =
        Except.ok (e, rest)) : rest.length ≤ s.length := by
    have shorter := length_digits s
    split at read
    · cases read
    · cases read
      exact shorter
  unfold splitExponent at split
  split at split
  next =>
    cases split
    exact Nat.le_refl _
  next c tail =>
    split at split
    · split at split
      next left signed =>
        have shorter := counted split
        split at signed <;> cases signed <;> simp only [List.length_cons] <;> omega
    · cases split
      exact Nat.le_refl _

theorem length_split {s rest : List Char} {parts : Parts} (read : split s = .ok (parts, rest)) :
    rest.length ≤ s.length := by
  unfold split at read
  split at read
  next unsigned signed =>
    obtain ⟨⟨whole, left⟩, first, read⟩ := ok_of_bind read
    obtain ⟨⟨fraction, left'⟩, second, read⟩ := ok_of_bind read
    obtain ⟨⟨exponent, left''⟩, third, read⟩ := ok_of_bind read
    cases read
    have shorter := Nat.le_trans (length_splitExponent third)
      (Nat.le_trans (length_splitFraction second) (length_splitWhole first))
    split at signed <;> cases signed
    · exact Nat.le_succ_of_le shorter
    · exact shorter

end Numeral

namespace Scan

theorem length_hexEscape {s rest : List Char} {n : Nat} (read : hexEscape s = .ok (n, rest)) :
    rest.length ≤ s.length := by
  unfold hexEscape at read
  dsimp only at read
  split at read
  · split at read
    · cases read
      exact Nat.le_add_right _ 4
    · cases read
  · cases read

theorem length_unicodeEscape {s rest : List Char} {c : Char}
    (read : unicodeEscape s = .ok (c, rest)) : rest.length ≤ s.length := by
  obtain ⟨⟨n, left⟩, first, read⟩ := ok_of_bind read
  have shorter := length_hexEscape first
  dsimp only at read
  split at read
  · cases read
  · split at read
    · split at read
      · cases read
      · cases read
      next tail =>
        obtain ⟨⟨m, left'⟩, second, read⟩ := ok_of_bind read
        have shorter' := length_hexEscape second
        dsimp only at read
        split at read
        · obtain ⟨-, rfl⟩ := Prod.mk.inj (Except.ok.inj read)
          simp only [List.length_cons] at shorter
          omega
        · cases read
      · cases read
    · obtain ⟨-, rfl⟩ := Prod.mk.inj (Except.ok.inj read)
      exact shorter

theorem length_readString {fuel : Nat} {s cs rest : List Char}
    (read : readString fuel s = .ok (cs, rest)) : rest.length ≤ s.length := by
  induction fuel generalizing s cs rest with
  | zero => cases read
  | succ fuel ih =>
      have onward {c : Char} {left : List Char}
          (read : (readString fuel left >>= fun tail => .ok (c :: tail.1, tail.2)) =
            Except.ok (cs, rest)) : rest.length ≤ left.length := by
        obtain ⟨⟨cs', rest'⟩, tail, read⟩ := ok_of_bind read
        cases read
        exact ih tail
      cases s with
      | nil => cases read
      | cons c s =>
          rw [readString.eq_def] at read
          dsimp only at read
          split at read
          · cases read
            exact Nat.le_succ _
          · split at read
            · split at read
              · cases read
              next tail =>
                obtain ⟨⟨c', left⟩, escape, read⟩ := ok_of_bind read
                have shorter := Nat.le_trans (onward read) (length_unicodeEscape escape)
                exact Nat.le_trans shorter (Nat.le_add_right _ 2)
              next e tail _ =>
                split at read
                · cases read
                · exact Nat.le_trans (onward read) (Nat.le_add_right _ 2)
            · split at read
              · cases read
              · exact Nat.le_succ_of_le (onward read)

theorem length_skipString {fuel : Nat} {s rest : List Char}
    (read : skipString fuel s = .ok rest) : rest.length ≤ s.length := by
  induction fuel generalizing s rest with
  | zero => cases read
  | succ fuel ih =>
      cases s with
      | nil => cases read
      | cons c s =>
          rw [skipString.eq_def] at read
          dsimp only at read
          split at read
          · cases read
            exact Nat.le_succ _
          · split at read
            · split at read
              · cases read
              next tail =>
                obtain ⟨⟨n, left⟩, escape, read⟩ := ok_of_bind read
                have shorter := Nat.le_trans (ih read) (length_hexEscape escape)
                exact Nat.le_trans shorter (Nat.le_add_right _ 2)
              next e tail _ =>
                split at read
                · exact Nat.le_trans (ih read) (Nat.le_add_right _ 2)
                · cases read
            · split at read
              · cases read
              · exact Nat.le_succ_of_le (ih read)

def left {α : Type} (part : Part α) : Nat := (part.2.getD []).length

theorem left_string {α : Type} (whole : String → α) (unreadable : Problem → α)
    (broken : Problem → Problem → α) (s : List Char) :
    left (string whole unreadable broken s) ≤ s.length := by
  rw [string]
  split
  next read => exact length_readString read
  next =>
    split
    next skipped => exact length_skipString skipped
    next => exact Nat.zero_le _

theorem left_number (s : List Char) : left (number s) ≤ s.length := by
  rw [number]
  split
  next read => exact Numeral.length_split read
  next => exact Nat.zero_le _

theorem left_word (r : Reading) (letters s : List Char) : left (word r letters s) ≤ s.length := by
  induction letters generalizing s with
  | nil => exact Nat.le_refl _
  | cons a letters ih =>
      cases s with
      | nil => exact Nat.zero_le _
      | cons c s =>
          rw [word]
          split
          · exact Nat.le_succ_of_le (ih s)
          · exact Nat.zero_le _

theorem left_key (s : List Char) : left (key s) ≤ s.length := by
  rw [key.eq_def]
  split
  · exact Nat.le_succ_of_le (left_string _ _ _ _)
  · exact Nat.zero_le _

/-- What is read with some fuel takes a character of its own for each collection. -/
structure Frugal (fuel : Nat) : Prop where
  value : ∀ s, (value fuel s).1.collections + left (value fuel s) ≤ s.length
  items : ∀ first s, Reading.collectionsOfItems (items fuel first s).1.1 +
    left (items fuel first s) ≤ s.length
  item : ∀ s, Reading.collectionsOfItems (item fuel s).1.1 + left (item fuel s) ≤ s.length
  members : ∀ first s, Reading.collectionsOfMembers (members fuel first s).1.1 +
    left (members fuel first s) ≤ s.length
  member : ∀ s, Reading.collectionsOfMembers (member fuel s).1.1 + left (member fuel s) ≤ s.length

variable {fuel : Nat}

theorem collections_string (s : List Char) :
    (string Reading.str .unreadable .broken s).1.collections = 0 := by
  rw [string]
  split
  · rfl
  · split <;> rfl

theorem collections_number (s : List Char) : (number s).1.collections = 0 := by
  rw [number]
  split
  next parts rest _ =>
    change (Numeral.value parts).collections = 0
    rw [Numeral.value]
    split
    · rfl
    · split <;> rfl
  · rfl

theorem collections_word {r : Reading} (scalar : r.collections = 0) (letters s : List Char) :
    (word r letters s).1.collections = 0 := by
  induction letters generalizing s with
  | nil => exact scalar
  | cons a letters ih =>
      cases s with
      | nil => rfl
      | cons c s =>
          rw [word]
          split
          · exact ih s
          · rfl

theorem Frugal.value_succ (frugal : Frugal fuel) (s : List Char) :
    (Scan.value (fuel + 1) s).1.collections + left (Scan.value (fuel + 1) s) ≤ s.length := by
  have trimmed := length_skipSpace s
  have scalar {part : Part Reading} (flat : part.1.collections = 0)
      (shorter : left part ≤ (skipSpace s).length) : part.1.collections + left part ≤ s.length := by
    omega
  have behind {c : Char} {tail : List Char} {part : Part Reading}
      (opened : skipSpace s = c :: tail) (shorter : left part ≤ tail.length) :
      left part ≤ (skipSpace s).length := by
    rw [opened]
    exact Nat.le_succ_of_le shorter
  rw [Scan.value]
  split
  next => exact Nat.zero_le _
  next tail opened => exact scalar (collections_word rfl _ _) (behind opened (left_word _ _ _))
  next tail opened => exact scalar (collections_word rfl _ _) (behind opened (left_word _ _ _))
  next tail opened => exact scalar (collections_word rfl _ _) (behind opened (left_word _ _ _))
  next tail opened => exact scalar (collections_string _) (behind opened (left_string _ _ _ _))
  next tail opened =>
    have inner := frugal.items true tail
    rw [opened, List.length_cons] at trimmed
    generalize Scan.items fuel true tail = part at inner ⊢
    obtain ⟨⟨rs, stop⟩, rest⟩ := part
    dsimp only [Reading.collections, left] at inner ⊢
    omega
  next tail opened =>
    have inner := frugal.members true tail
    rw [opened, List.length_cons] at trimmed
    generalize Scan.members fuel true tail = part at inner ⊢
    obtain ⟨⟨ms, stop⟩, rest⟩ := part
    dsimp only [Reading.collections, left] at inner ⊢
    omega
  next c tail _ _ _ _ _ _ opened =>
    split
    · exact scalar (collections_number _) (opened ▸ left_number _)
    · exact Nat.zero_le _

theorem Frugal.items_succ (frugal : Frugal fuel) (first : Bool) (s : List Char) :
    Reading.collectionsOfItems (Scan.items (fuel + 1) first s).1.1 +
      left (Scan.items (fuel + 1) first s) ≤ s.length := by
  have trimmed := length_skipSpace s
  rw [Scan.items]
  split
  next => exact Nat.zero_le _
  next tail closed =>
    rw [closed, List.length_cons] at trimmed
    exact Nat.le_trans (Nat.le_of_eq (Nat.zero_add _)) (Nat.le_of_succ_le trimmed)
  next c tail _ opened =>
    rw [opened] at trimmed
    split
    · exact Nat.le_trans (frugal.item _) trimmed
    · split
      · have trimmed' := length_skipSpace tail
        split
        · exact Nat.zero_le _
        · exact Nat.zero_le _
        · have inner := frugal.item (skipSpace tail)
          rw [List.length_cons] at trimmed
          omega
      · exact Nat.zero_le _

theorem Frugal.item_succ (frugal : Frugal fuel) (s : List Char) :
    Reading.collectionsOfItems (Scan.item (fuel + 1) s).1.1 + left (Scan.item (fuel + 1) s) ≤
      s.length := by
  have first := frugal.value s
  rw [Scan.item]
  split
  next r read =>
    rw [read] at first
    exact first
  next r rest read =>
    have later := frugal.items false rest
    rw [read] at first
    generalize Scan.items fuel false rest = part at later ⊢
    obtain ⟨⟨rs, stop⟩, rest'⟩ := part
    dsimp only [Reading.collectionsOfItems, left, Option.getD_some] at first later ⊢
    omega

theorem Frugal.members_succ (frugal : Frugal fuel) (first : Bool) (s : List Char) :
    Reading.collectionsOfMembers (Scan.members (fuel + 1) first s).1.1 +
      left (Scan.members (fuel + 1) first s) ≤ s.length := by
  have trimmed := length_skipSpace s
  rw [Scan.members]
  split
  next => exact Nat.zero_le _
  next tail closed =>
    rw [closed, List.length_cons] at trimmed
    exact Nat.le_trans (Nat.le_of_eq (Nat.zero_add _)) (Nat.le_of_succ_le trimmed)
  next c tail _ opened =>
    rw [opened] at trimmed
    split
    · exact Nat.le_trans (frugal.member _) trimmed
    · split
      · have trimmed' := length_skipSpace tail
        split
        · exact Nat.zero_le _
        · exact Nat.zero_le _
        · have inner := frugal.member (skipSpace tail)
          rw [List.length_cons] at trimmed
          omega
      · exact Nat.zero_le _

theorem Frugal.member_succ (frugal : Frugal fuel) (s : List Char) :
    Reading.collectionsOfMembers (Scan.member (fuel + 1) s).1.1 + left (Scan.member (fuel + 1) s) ≤
      s.length := by
  have named := left_key s
  rw [Scan.member]
  split
  next => exact Nat.zero_le _
  next k rest read =>
    rw [read] at named
    have trimmed := length_skipSpace (rest.getD [])
    split
    · exact Nat.zero_le _
    next tail opened =>
      rw [opened, List.length_cons] at trimmed
      have first := frugal.value tail
      dsimp only [left] at named
      split
      next r read =>
        rw [read] at first
        dsimp only [Reading.collectionsOfMembers, left, Option.getD_none] at first ⊢
        omega
      next r rest read =>
        have later := frugal.members false rest
        rw [read] at first
        generalize Scan.members fuel false rest = part at later ⊢
        obtain ⟨⟨ms, stop⟩, rest'⟩ := part
        dsimp only [Reading.collectionsOfMembers, left, Option.getD_some] at first later ⊢
        omega
    · exact Nat.zero_le _

theorem frugal (fuel : Nat) : Frugal fuel := by
  induction fuel with
  | zero => constructor <;> intros <;> exact Nat.zero_le _
  | succ fuel ih =>
      constructor
      · exact ih.value_succ
      · exact ih.items_succ
      · exact ih.item_succ
      · exact ih.members_succ
      · exact ih.member_succ

end Scan

theorem Reading.collections_ofText (text : String) :
    (ofText text).1.collections ≤ text.length := by
  have read := (Scan.frugal (3 * text.toList.length + 3)).value text.toList
  rw [String.length_toList] at read
  exact Nat.le_trans (Nat.le_add_right _ _) read

end TemplateWiring.Json
