import TemplateWiring.Proofs.Json.Numeral
import TemplateWiring.Proofs.Json.Quoted

namespace TemplateWiring.Json

inductive InRange : Json → Prop where
  | null : InRange .null
  | bool (b : Bool) : InRange (.bool b)
  | int {n : Int} (range : Numeral.InRange n) : InRange (.int n)
  | str (s : String) : InRange (.str s)
  | arr {items : List Json} (inner : ∀ v ∈ items, InRange v) : InRange (.arr items)
  | obj {members : List (String × Json)} (inner : ∀ m ∈ members, InRange m.2) :
      InRange (.obj members)

def behindCommas (texts : List String) : List Char := texts.flatMap fun text => ',' :: text.toList

theorem behindCommas_cons (text : String) (texts : List String) (s : List Char) :
    behindCommas (text :: texts) ++ s = ',' :: (text.toList ++ (behindCommas texts ++ s)) := by
  rw [behindCommas, List.flatMap_cons, List.cons_append, List.cons_append, List.append_assoc]
  rfl

theorem toList_intercalate (text : String) (texts : List String) :
    (String.intercalate "," (text :: texts)).toList = text.toList ++ behindCommas texts := by
  induction texts generalizing text with
  | nil => simp [behindCommas]
  | cons next texts ih =>
      rw [String.intercalate_cons_cons, String.toList_append, String.toList_append, ih]
      simp [behindCommas]

theorem ends_behindCommas (texts : List String) {s : List Char} (ends : Ends s) :
    Ends (behindCommas texts ++ s) := by
  cases texts with
  | nil => exact ends
  | cons text texts => exact .comma _

theorem skipSpace_cons {c : Char} (solid : isSpace c = false) (s : List Char) :
    skipSpace (c :: s) = c :: s := by
  rw [skipSpace, List.dropWhile_cons_of_neg (by simp [solid])]

theorem toList_render_arr (items : List Json) :
    (render (.arr items)).toList =
      '[' :: ((String.intercalate "," (renderAll items)).toList ++ [']']) := by
  rw [render, String.toList_append, String.toList_append]
  rfl

theorem toList_render_obj (members : List (String × Json)) :
    (render (.obj members)).toList =
      '\x7b' :: ((String.intercalate "," (renderMembers members)).toList ++ ['\x7d']) := by
  rw [render, String.toList_append, String.toList_append]
  rfl

theorem toList_member (key : String) (v : Json) (s : List Char) :
    (quoted key ++ ":" ++ render v).toList ++ s =
      '"' :: (key.toList.flatMap escaped ++ '"' :: ':' :: ((render v).toList ++ s)) := by
  rw [String.toList_append, String.toList_append, Scan.toList_quoted]
  simp

theorem length_member (key : String) (v : Json) (s : List Char) :
    ((render v).toList ++ s).length + 3 ≤ ((quoted key ++ ":" ++ render v).toList ++ s).length := by
  rw [toList_member]
  simp only [List.length_cons, List.length_append]
  omega

theorem toString_leading (n : Int) :
    ∃ c s, (toString n).toList = c :: s ∧ (c = '-' ∨ c.isDigit = true) := by
  cases n with
  | ofNat n =>
      obtain ⟨c, s, eq⟩ := List.exists_cons_of_ne_nil (Nat.toDigits_ne_nil (n := n) (b := 10))
      refine ⟨c, s, (String.toList_ofList).trans eq, .inr ?_⟩
      exact Nat.isDigit_of_mem_toDigits (b := 10) (n := n) (by decide) (by decide) (by simp [eq])
  | negSucc n =>
      exact ⟨'-', _, Numeral.toList_negSucc n, .inl rfl⟩

/-- A character that a value can start with, as a list takes it. -/
structure Opens (c : Char) : Prop where
  solid : isSpace c = false
  inside : c ≠ ']'

theorem opens_of_numeral {c : Char} (lead : c = '-' ∨ c.isDigit = true) : Opens c := by
  rcases lead with rfl | digit
  · exact ⟨rfl, by decide⟩
  constructor
  · by_contra space
    simp only [isSpace, Bool.not_eq_false, Bool.or_eq_true, beq_iff_eq] at space
    rcases space with ((rfl | rfl) | rfl) | rfl <;> cases digit
  · rintro rfl
    cases digit

theorem render_leading (j : Json) : ∃ c s, (render j).toList = c :: s ∧ Opens c := by
  cases j with
  | null => exact ⟨'n', _, rfl, rfl, by decide⟩
  | bool b => cases b <;> exact ⟨_, _, rfl, rfl, by decide⟩
  | int n =>
      obtain ⟨c, s, eq, lead⟩ := toString_leading n
      exact ⟨c, s, eq, opens_of_numeral lead⟩
  | str s => exact ⟨'"', _, Scan.toList_quoted s, rfl, by decide⟩
  | arr items => exact ⟨'[', _, toList_render_arr items, rfl, by decide⟩
  | obj members => exact ⟨'\x7b', _, toList_render_obj members, rfl, by decide⟩

theorem length_render_pos (j : Json) : 0 < (render j).toList.length := by
  obtain ⟨c, s, eq, -⟩ := render_leading j
  rw [eq]
  exact Nat.succ_pos _

namespace Scan

variable {fuel : Nat} {c : Char} {s : List Char}

theorem value_number (lead : c = '-' ∨ c.isDigit = true) :
    value (fuel + 1) (c :: s) = number (c :: s) := by
  have other : ∀ c' ∈ ['n', 't', 'f', '"', '[', '\x7b'], c ≠ c' := by
    rintro c' member rfl
    revert lead
    simp only [List.mem_cons, List.not_mem_nil, or_false] at member
    rcases member with rfl | rfl | rfl | rfl | rfl | rfl <;> decide
  simp only [List.mem_cons, List.not_mem_nil, or_false, forall_eq_or_imp, forall_eq] at other
  simp [value, skipSpace_cons (opens_of_numeral lead).solid, other, lead]

theorem items_close (first : Bool) : items (fuel + 1) first (']' :: s) = (([], none), some s) := by
  simp [items, skipSpace_cons (c := ']') rfl]

theorem items_first (j : Json) :
    items (fuel + 1) true ((render j).toList ++ s) = item fuel ((render j).toList ++ s) := by
  obtain ⟨c, text, eq, opens⟩ := render_leading j
  simp [items, eq, skipSpace_cons opens.solid, opens.inside]

theorem items_comma (j : Json) :
    items (fuel + 1) false (',' :: ((render j).toList ++ s)) =
      item fuel ((render j).toList ++ s) := by
  obtain ⟨c, text, eq, opens⟩ := render_leading j
  simp [items, skipSpace_cons (c := ',') rfl, eq, skipSpace_cons opens.solid, opens.inside]

theorem members_close (first : Bool) :
    members (fuel + 1) first ('\x7d' :: s) = (([], none), some s) := by
  simp [members, skipSpace_cons (c := '\x7d') rfl]

theorem members_first (key : String) (v : Json) :
    members (fuel + 1) true ((quoted key ++ ":" ++ render v).toList ++ s) =
      member fuel ((quoted key ++ ":" ++ render v).toList ++ s) := by
  simp only [toList_member]
  simp [members, skipSpace_cons (c := '"') rfl]

theorem members_comma (key : String) (v : Json) :
    members (fuel + 1) false (',' :: ((quoted key ++ ":" ++ render v).toList ++ s)) =
      member fuel ((quoted key ++ ":" ++ render v).toList ++ s) := by
  simp only [toList_member]
  simp [members, skipSpace_cons (c := ',') rfl, skipSpace_cons (c := '"') rfl]

/-- The text of a value is read as the value. Three steps for each character are enough: a value may
stand behind a comma as an item, and each of these takes one. -/
def ReadsBack (j : Json) : Prop :=
  ∀ (fuel : Nat) (rest : List Char), 3 * ((render j).toList ++ rest).length ≤ fuel → Ends rest →
    value fuel ((render j).toList ++ rest) = (Reading.ofJson j, some rest)

theorem item_reads {v : Json} (reads : ReadsBack v)
    (enough : 3 * ((render v).toList ++ s).length ≤ fuel) (ends : Ends s) :
    item (fuel + 1) ((render v).toList ++ s) =
      let ((rs, stop), rest) := items fuel false s
      ((Reading.ofJson v :: rs, stop), rest) := by
  rw [item, reads fuel s enough ends]

theorem member_reads {v : Json} (reads : ReadsBack v) (key : String)
    (enough : 3 * ((render v).toList ++ s).length ≤ fuel) (ends : Ends s) :
    member (fuel + 1) ((quoted key ++ ":" ++ render v).toList ++ s) =
      let ((ms, stop), rest) := members fuel false s
      (((.name key, Reading.ofJson v) :: ms, stop), rest) := by
  rw [toList_member, member, Scan.key, string_quoted]
  simp only [Option.getD_some, skipSpace_cons (c := ':') rfl, reads fuel s enough ends]

theorem items_behindCommas (vs : List Json) (inner : ∀ v ∈ vs, ReadsBack v) (fuel : Nat)
    (enough : 3 * (behindCommas (renderAll vs) ++ ']' :: s).length ≤ fuel) :
    items fuel false (behindCommas (renderAll vs) ++ ']' :: s) =
      ((Reading.ofItems vs, none), some s) := by
  induction vs generalizing fuel with
  | nil =>
      change 3 * (s.length + 1) ≤ fuel at enough
      obtain ⟨fuel, rfl⟩ := Nat.exists_eq_add_one.mpr (show 0 < fuel by omega)
      exact items_close false
  | cons v vs ih =>
      have solid := length_render_pos v
      rw [renderAll, behindCommas_cons] at enough ⊢
      rw [List.length_cons, List.length_append] at enough
      obtain ⟨fuel, rfl⟩ := Nat.exists_eq_add_of_le (show 2 ≤ fuel by omega)
      rw [Nat.add_comm, items_comma, item_reads (inner v List.mem_cons_self)
        (by rw [List.length_append]; omega) (ends_behindCommas _ (.list s)),
        ih (fun w member => inner w (List.mem_cons_of_mem v member)) fuel (by omega)]
      rfl

theorem members_behindCommas (ms : List (String × Json)) (inner : ∀ m ∈ ms, ReadsBack m.2)
    (fuel : Nat) (enough : 3 * (behindCommas (renderMembers ms) ++ '\x7d' :: s).length ≤ fuel) :
    members fuel false (behindCommas (renderMembers ms) ++ '\x7d' :: s) =
      ((Reading.ofMembers ms, none), some s) := by
  induction ms generalizing fuel with
  | nil =>
      change 3 * (s.length + 1) ≤ fuel at enough
      obtain ⟨fuel, rfl⟩ := Nat.exists_eq_add_one.mpr (show 0 < fuel by omega)
      exact members_close false
  | cons m ms ih =>
      obtain ⟨key, v⟩ := m
      have reads : ReadsBack v := inner (key, v) List.mem_cons_self
      have shorter := length_member key v (behindCommas (renderMembers ms) ++ '\x7d' :: s)
      rw [renderMembers, behindCommas_cons] at enough ⊢
      rw [List.length_cons] at enough
      obtain ⟨fuel, rfl⟩ := Nat.exists_eq_add_of_le (show 2 ≤ fuel by omega)
      rw [Nat.add_comm, members_comma,
        member_reads reads key (by omega) (ends_behindCommas _ (.object s))]
      rw [List.length_append] at shorter
      rw [ih (fun w member => inner w (List.mem_cons_of_mem _ member)) fuel (by omega)]
      rfl

theorem word_append (r : Reading) (letters : List Char) :
    word r letters (letters ++ s) = (r, some s) := by
  induction letters with
  | nil => rfl
  | cons c letters ih => simp [word, ih]

theorem readsBack_of_succ {j : Json}
    (reads : ∀ (fuel : Nat) (rest : List Char), 3 * ((render j).toList ++ rest).length ≤ fuel + 1 →
      Ends rest → value (fuel + 1) ((render j).toList ++ rest) = (Reading.ofJson j, some rest)) :
    ReadsBack j := by
  intro fuel rest enough ends
  have solid := length_render_pos j
  rw [List.length_append] at enough
  obtain ⟨fuel, rfl⟩ := Nat.exists_eq_add_one.mpr (show 0 < fuel by omega)
  exact reads fuel rest (by rwa [List.length_append]) ends

theorem items_renderAll {vs : List Json} (inner : ∀ v ∈ vs, ReadsBack v) (fuel : Nat)
    (enough : 3 * ((String.intercalate "," (renderAll vs)).toList ++ ']' :: s).length + 2 ≤ fuel) :
    items fuel true ((String.intercalate "," (renderAll vs)).toList ++ ']' :: s) =
      ((Reading.ofItems vs, none), some s) := by
  obtain ⟨fuel, rfl⟩ := Nat.exists_eq_add_of_le (show 2 ≤ fuel by omega)
  rw [Nat.add_comm 2 fuel] at enough ⊢
  cases vs with
  | nil => exact items_close true
  | cons v vs =>
      have solid := length_render_pos v
      rw [renderAll, toList_intercalate, List.append_assoc] at enough ⊢
      rw [List.length_append] at enough
      rw [items_first, item_reads (inner v List.mem_cons_self)
        (by rw [List.length_append]; omega) (ends_behindCommas _ (.list s)),
        items_behindCommas vs (fun w member => inner w (List.mem_cons_of_mem v member)) fuel
          (by omega)]
      rfl

theorem members_renderMembers {ms : List (String × Json)} (inner : ∀ m ∈ ms, ReadsBack m.2)
    (fuel : Nat)
    (enough : 3 * ((String.intercalate "," (renderMembers ms)).toList ++ '\x7d' :: s).length + 2 ≤
      fuel) :
    members fuel true ((String.intercalate "," (renderMembers ms)).toList ++ '\x7d' :: s) =
      ((Reading.ofMembers ms, none), some s) := by
  obtain ⟨fuel, rfl⟩ := Nat.exists_eq_add_of_le (show 2 ≤ fuel by omega)
  rw [Nat.add_comm 2 fuel] at enough ⊢
  cases ms with
  | nil => exact members_close true
  | cons m ms =>
      obtain ⟨key, v⟩ := m
      have reads : ReadsBack v := inner (key, v) List.mem_cons_self
      have shorter := length_member key v (behindCommas (renderMembers ms) ++ '\x7d' :: s)
      rw [renderMembers, toList_intercalate, List.append_assoc] at enough ⊢
      rw [members_first, member_reads reads key (by omega) (ends_behindCommas _ (.object s))]
      rw [List.length_append] at shorter
      rw [members_behindCommas ms (fun w member => inner w (List.mem_cons_of_mem _ member)) fuel
          (by omega)]
      rfl

theorem reads_arr {vs : List Json} (inner : ∀ v ∈ vs, ReadsBack v) : ReadsBack (.arr vs) := by
  apply readsBack_of_succ
  intro fuel rest enough ends
  rw [toList_render_arr, List.cons_append, List.append_assoc, List.singleton_append] at enough ⊢
  rw [List.length_cons] at enough
  change (let ((rs, stop), rest) := items fuel true _; (Reading.list rs stop, rest)) = _
  rw [items_renderAll inner fuel (by omega)]
  rfl

theorem reads_obj {ms : List (String × Json)} (inner : ∀ m ∈ ms, ReadsBack m.2) :
    ReadsBack (.obj ms) := by
  apply readsBack_of_succ
  intro fuel rest enough ends
  rw [toList_render_obj, List.cons_append, List.append_assoc, List.singleton_append] at enough ⊢
  rw [List.length_cons] at enough
  change (let ((ms, stop), rest) := members fuel true _; (Reading.object ms stop, rest)) = _
  rw [members_renderMembers inner fuel (by omega)]
  rfl

theorem reads_render {j : Json} (range : InRange j) : ReadsBack j := by
  induction range with
  | arr inner ih => exact reads_arr ih
  | obj inner ih => exact reads_obj ih
  | null => exact readsBack_of_succ fun fuel rest _ _ => word_append .null "ull".toList
  | bool b =>
      apply readsBack_of_succ
      intro fuel rest _ _
      cases b with
      | false => exact word_append (.bool false) "alse".toList
      | true => exact word_append (.bool true) "rue".toList
  | @int n range =>
      apply readsBack_of_succ
      intro fuel rest _ ends
      obtain ⟨c, s, eq, lead⟩ := toString_leading n
      have number := Numeral.number_toString range ends
      change value (fuel + 1) ((toString n).toList ++ rest) = _
      rw [eq, List.cons_append] at number ⊢
      exact (value_number lead).trans number
  | str s =>
      apply readsBack_of_succ
      intro fuel rest _ _
      change value (fuel + 1) ((quoted s).toList ++ rest) = _
      rw [toList_quoted, List.cons_append, List.append_assoc]
      exact string_quoted Reading.str Reading.unreadable Reading.broken s rest

end Scan

theorem Reading.ofText_render {j : Json} (range : InRange j) :
    Reading.ofText (render j) = (Reading.ofJson j, false) := by
  have read := Scan.reads_render range (3 * (render j).toList.length + 3) []
    (by simp) .done
  rw [List.append_nil] at read
  simp [ofText, read, skipSpace]

end TemplateWiring.Json
