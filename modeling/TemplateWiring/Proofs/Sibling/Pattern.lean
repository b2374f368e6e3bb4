import TemplateWiring.Proofs.Sibling.Name
import TemplateWiring.Sibling.Pattern

namespace TemplateWiring

namespace Pattern

section read

variable (outer : List Draft) (d : Draft)

theorem read?_backslash : read? ⟨outer, d, false⟩ '\\' = some ⟨outer, d, true⟩ := rfl

theorem read?_sign {c : Char} (sign : c ∈ signs) :
    read? ⟨outer, d, true⟩ c = some ⟨outer, d.add [char c], false⟩ := by
  have letter : c ≠ 'w' := by
    rintro rfl
    exact absurd sign (by decide)
  rw [read?, if_pos rfl, if_neg letter, if_pos sign]

theorem read?_plain {c : Char} (plain : c ∉ operators) :
    read? ⟨outer, d, false⟩ c = some ⟨outer, d.add [char c], false⟩ := by
  have other (o : Char) (operator : o ∈ operators) : c ≠ o := fun same => plain (same ▸ operator)
  rw [read?, if_neg Bool.false_ne_true, if_neg (other _ (by decide)), if_neg (other _ (by decide)),
    if_neg (other _ (by decide)), if_neg (other _ (by decide)), if_neg (other _ (by decide)),
    if_neg (other _ (by decide)), if_neg (other _ (by decide)), if_neg plain]

theorem read?_plus (earlier : List (List Pattern)) (parts : List Pattern) (p : Pattern) :
    read? ⟨outer, ⟨earlier, parts ++ [p]⟩, false⟩ '+' =
      some ⟨outer, ⟨earlier, parts ++ [repeated p]⟩, false⟩ := by
  have last : Draft.repeatLast? ⟨earlier, parts ++ [p]⟩ =
      some ⟨earlier, parts ++ [repeated p]⟩ := by
    rw [Draft.repeatLast?, List.getLast?_concat, List.dropLast_concat, Option.map_some]
  have unfolded : read? ⟨outer, ⟨earlier, parts ++ [p]⟩, false⟩ '+' =
      (Draft.repeatLast? ⟨earlier, parts ++ [p]⟩).map fun group => ⟨outer, group, false⟩ := rfl
  rw [unfolded, last, Option.map_some]

theorem Draft.add_nil : d.add [] = d := by
  rw [add, List.append_nil]

theorem Draft.add_add (first second : List Pattern) :
    (d.add first).add second = d.add (first ++ second) := by
  rw [add, add, add, List.append_assoc]

theorem readAll_literal (s : List Char) (plain : ∀ c ∈ s, c ∉ operators) :
    s.foldlM read? ⟨outer, d, false⟩ = some ⟨outer, d.add (s.map char), false⟩ := by
  induction s generalizing d with
  | nil => rw [List.map_nil, Draft.add_nil, List.foldlM_nil, Option.pure_def]
  | cons c s ih =>
      rw [List.foldlM_cons, read?_plain _ _ (plain c List.mem_cons_self), Option.bind_eq_bind,
        Option.bind_some, ih _ fun x member => plain x (List.mem_cons_of_mem _ member), Draft.add_add]
      rfl

theorem operators_signs : ∀ c ∈ operators, c ∈ signs := by
  have checked : operators.all (· ∈ signs) = true := by decide
  simpa only [List.all_eq_true, decide_eq_true_eq] using checked

theorem readAll_escape (s : List Char) :
    (escape s).foldlM read? ⟨outer, d, false⟩ = some ⟨outer, d.add (s.map char), false⟩ := by
  induction s generalizing d with
  | nil => rw [escape, List.flatMap_nil, List.map_nil, Draft.add_nil, List.foldlM_nil,
      Option.pure_def]
  | cons c s ih =>
      have first : (if c ∈ signs then ['\\', c] else [c]).foldlM read? ⟨outer, d, false⟩ =
          some ⟨outer, d.add [char c], false⟩ := by
        by_cases sign : c ∈ signs
        · rw [if_pos sign, List.foldlM_cons, read?_backslash, Option.bind_eq_bind, Option.bind_some,
            List.foldlM_cons, read?_sign _ _ sign]
          rfl
        · have plain : c ∉ operators := fun operator => sign (operators_signs c operator)
          rw [if_neg sign, List.foldlM_cons, read?_plain _ _ plain]
          rfl
      rw [escape, List.flatMap_cons, List.foldlM_append, first, Option.bind_eq_bind,
        Option.bind_some, ← escape, ih, Draft.add_add]
      rfl

end read

section fits

variable {before part after : List Char}

theorem fits_cons (p : Pattern) (rest : List Pattern) :
    (sequence (p :: rest)).Fits before part after ↔ ∃ front back, part = front ++ back ∧
      p.Fits before front (back ++ after) ∧ (sequence rest).Fits (before ++ front) back after :=
  Iff.rfl

theorem fits_append (first second : List Pattern) :
    (sequence (first ++ second)).Fits before part after ↔ ∃ front back, part = front ++ back ∧
      (sequence first).Fits before front (back ++ after) ∧
      (sequence second).Fits (before ++ front) back after := by
  induction first generalizing before part with
  | nil =>
      constructor
      · intro fits
        exact ⟨[], part, rfl, rfl, by rwa [List.append_nil]⟩
      · rintro ⟨front, back, rfl, rfl, fits⟩
        rwa [List.append_nil] at fits
  | cons p first ih =>
      rw [List.cons_append, fits_cons]
      constructor
      · rintro ⟨one, _, rfl, fit, rest⟩
        obtain ⟨front, back, rfl, fits, later⟩ := ih.mp rest
        refine ⟨one ++ front, back, (List.append_assoc _ _ _).symm, ?_, ?_⟩
        · exact (fits_cons p first).mpr ⟨one, front, rfl, by rwa [← List.append_assoc], fits⟩
        · rwa [← List.append_assoc]
      · rintro ⟨_, back, rfl, fits, later⟩
        obtain ⟨one, front, rfl, fit, rest⟩ := (fits_cons p first).mp fits
        refine ⟨one, front ++ back, List.append_assoc _ _ _, by rwa [List.append_assoc], ?_⟩
        exact ih.mpr ⟨front, back, rfl, rest, by rwa [List.append_assoc]⟩

theorem fits_single (p : Pattern) :
    (sequence [p]).Fits before part after ↔ p.Fits before part after := by
  rw [fits_cons]
  constructor
  · rintro ⟨front, _, rfl, fit, rfl⟩
    rwa [List.append_nil]
  · intro fit
    exact ⟨part, [], (List.append_nil _).symm, fit, rfl⟩

theorem fits_start (rest : List Pattern) : (sequence (start :: rest)).Fits before part after ↔
    before = [] ∧ (sequence rest).Fits [] part after := by
  rw [fits_cons]
  constructor
  · rintro ⟨_, back, rfl, ⟨rfl, rfl⟩, fits⟩
    exact ⟨rfl, fits⟩
  · rintro ⟨rfl, fits⟩
    exact ⟨[], part, rfl, ⟨rfl, rfl⟩, fits⟩

theorem fits_literal (s : List Char) :
    (sequence (s.map char)).Fits before part after ↔ part = s := by
  induction s generalizing before part with
  | nil => exact Iff.rfl
  | cons c s ih =>
      rw [List.map_cons, fits_cons]
      constructor
      · rintro ⟨front, back, rfl, rfl, rest⟩
        rw [ih.mp rest]
        rfl
      · rintro rfl
        exact ⟨[c], s, rfl, rfl, ih.mpr rfl⟩

theorem fits_words : (repeated word).Fits before part after ↔ Sibling.WordRun part := by
  constructor
  · intro run
    have words : Repeats word.Fits before part after := run
    clear run
    induction words with
    | once fit =>
        obtain ⟨c, isWord, rfl⟩ := fit
        exact ⟨List.cons_ne_nil _ _, by simpa using isWord⟩
    | more fit _ ih =>
        obtain ⟨c, isWord, rfl⟩ := fit
        exact ⟨List.cons_ne_nil _ _, List.forall_mem_cons.mpr ⟨isWord, ih.2⟩⟩
  · rintro ⟨some, words⟩
    change Repeats word.Fits before part after
    induction part generalizing before with
    | nil => exact absurd rfl some
    | cons c part ih =>
        obtain ⟨isWord, words⟩ := List.forall_mem_cons.mp words
        cases part with
        | nil => exact .once ⟨c, isWord, rfl⟩
        | cons d part =>
            have fit : word.Fits before [c] (d :: part ++ after) := ⟨c, isWord, rfl⟩
            exact .more fit (ih (List.cons_ne_nil _ _) words)

theorem fits_ending : (sequence [char '.', repeated word, finish]).Fits before part after ↔
    (∃ ext, Sibling.WordRun ext ∧ part = '.' :: ext) ∧ after = [] := by
  rw [fits_cons]
  constructor
  · rintro ⟨_, _, rfl, rfl, rest⟩
    obtain ⟨ext, _, rfl, run, ends⟩ := (fits_cons _ _).mp rest
    obtain ⟨rfl, rfl⟩ := (fits_single finish).mp ends
    exact ⟨⟨ext, fits_words.mp run, by rw [List.append_nil]; rfl⟩, rfl⟩
  · rintro ⟨⟨ext, run, rfl⟩, rfl⟩
    refine ⟨['.'], ext, rfl, rfl, (fits_cons _ _).mpr ?_⟩
    exact ⟨ext, [], (List.append_nil ext).symm, fits_words.mpr run,
      (fits_single finish).mpr ⟨rfl, rfl⟩⟩

end fits

end Pattern

namespace Sibling

open Pattern

/-- What may stand before the role: the base name and a dot, or also nothing where the base name is
that of an entry. -/
def leadPattern (base : String) : Pattern :=
  let own := sequence (base.toList.map char ++ [char '.'])
  if base = "index" then either own empty else own

def namePattern (base : String) (role : Role) : Pattern :=
  sequence ([start, leadPattern base] ++ role.word.toList.map char ++
    [char '.', repeated word, finish])

theorem word_plain (role : Role) : ∀ c ∈ role.word.toList, c ∉ operators := by
  have checked : role.word.toList.all (· ∉ operators) = true := by cases role <;> decide
  simpa only [List.all_eq_true, decide_eq_true_eq] using checked

theorem ofText?_patternText (base : String) (role : Role) :
    Pattern.ofText? (patternText base role) = some (namePattern base role) := by
  let own : List Pattern := base.toList.map char ++ [char '.']
  have opening : "^(".toList.foldlM read? {} = some ⟨[⟨[], [start]⟩], {}, false⟩ := rfl
  have dot : "\\.".toList.foldlM read? ⟨[⟨[], [start]⟩], Draft.add {} (base.toList.map char), false⟩ =
      some ⟨[⟨[], [start]⟩], ⟨[], own⟩, false⟩ := rfl
  have closing : ((if base = "index" then "|" else "").toList.foldlM read?
      ⟨[⟨[], [start]⟩], ⟨[], own⟩, false⟩).bind (")".toList.foldlM read?) =
        some ⟨[], ⟨[], [start, leadPattern base]⟩, false⟩ := by
    rw [leadPattern]
    by_cases entry : base = "index"
    · rw [if_pos entry, if_pos entry]
      rfl
    · rw [if_neg entry, if_neg entry]
      rfl
  have ending (parts : List Pattern) : "\\.\\w+$".toList.foldlM read? ⟨[], ⟨[], parts⟩, false⟩ =
      some ⟨[], ⟨[], parts ++ [char '.', repeated word, finish]⟩, false⟩ := by
    have before_plus : "\\.\\w".toList.foldlM read? ⟨[], ⟨[], parts⟩, false⟩ =
        some ⟨[], ⟨[], parts ++ [char '.'] ++ [word]⟩, false⟩ := rfl
    have split : "\\.\\w+$".toList = "\\.\\w".toList ++ ['+', '$'] := rfl
    have last : parts ++ [char '.', repeated word, finish] =
        parts ++ [char '.'] ++ [repeated word] ++ [finish] := by simp
    rw [split, List.foldlM_append, before_plus, Option.bind_eq_bind, Option.bind_some,
      List.foldlM_cons, read?_plus, last]
    rfl
  rw [Pattern.ofText?, patternText]
  simp only [String.toList_append, String.toList_ofList, List.foldlM_append, Option.bind_eq_bind,
    opening, Option.bind_some, readAll_escape, dot, closing,
    readAll_literal _ _ _ (word_plain role)]
  exact congrArg (Option.bind · Reading.pattern?) (ending _)

theorem fits_lead (base : String) {before part after : List Char} :
    (leadPattern base).Fits before part after ↔ part ∈ leads base.toList := by
  have own (before part after : List Char) :
      (sequence (base.toList.map char ++ [char '.'])).Fits before part after ↔
        part = base.toList ++ ['.'] := by
    rw [← fits_literal (base.toList ++ ['.']), List.map_append]
    rfl
  rw [mem_leads, leadPattern, String.toList_inj]
  by_cases entry : base = "index"
  · rw [if_pos entry, and_iff_right entry]
    exact or_congr (own before part after) Iff.rfl
  · rw [if_neg entry, or_iff_left fun both => entry both.1]
    exact own before part after

/-- The ends of the text close the pattern in, so what it finds is the whole name. -/
theorem found_iff_named (base name : String) (role : Role) :
    (namePattern base role).Found name ↔ Named base.toList role name.toList := by
  rw [named_iff]
  constructor
  · rintro ⟨before, part, after, whole, fits⟩
    obtain ⟨_, _, rfl, front, ending⟩ := (fits_append _ _).mp fits
    obtain ⟨lead, _, rfl, leading, word⟩ := (fits_append _ _).mp front
    obtain ⟨rfl, own⟩ := (fits_start _).mp leading
    obtain rfl := (fits_literal _).mp word
    obtain ⟨⟨ext, run, rfl⟩, rfl⟩ := fits_ending.mp ending
    -- Nothing is left before the fit and nothing behind it.
    refine ⟨lead, (fits_lead base).mp ((fits_single _).mp own), ext, run, ?_⟩
    rw [whole, List.append_nil, List.nil_append]
  · rintro ⟨lead, member, ext, run, whole⟩
    refine ⟨[], name.toList, [], by rw [List.append_nil, List.nil_append], ?_⟩
    refine (fits_append _ _).mpr ⟨_, _, whole, ?_, fits_ending.mpr ⟨⟨ext, run, rfl⟩, rfl⟩⟩
    refine (fits_append _ _).mpr ⟨lead, _, rfl, ?_, (fits_literal _).mpr rfl⟩
    exact (fits_start _).mpr ⟨rfl, (fits_single _).mpr ((fits_lead base).mpr member)⟩

instance (base : String) (role : Role) : DecidablePred (namePattern base role).Found := fun name =>
  decidable_of_iff (hasRole base.toList name.toList role = true)
    ((hasRole_iff _ _ _).trans (found_iff_named base name role).symm)

/-- A file has a role exactly if its name is spelled as the role asks, and that is what the pattern of
the role finds. No name fits two patterns, so they can be tried in any order. -/
theorem classify_accepts_grammar (base : String) :
    (∀ role name, classify base name = some role ↔ Spelled base role name) ∧
    (∀ role, Pattern.ofText? (patternText base role) = some (namePattern base role) ∧
      ∀ name, (namePattern base role).Found name ↔ Spelled base role name) ∧
    (∀ first second, first ≠ second → ∀ name, Spelled base first name → ¬ Spelled base second name) ∧
    ∀ order : List Role, (∀ role, role ∈ order) → ∀ name,
      order.find? (fun role => (namePattern base role).Found name) = classify base name := by
  have accepted (role : Role) (name : String) :
      classify base name = some role ↔ Spelled base role name := by
    rw [classify_eq_some, spelled_iff]
  have found (role : Role) (name : String) :
      (namePattern base role).Found name ↔ Spelled base role name := by
    rw [found_iff_named, spelled_iff]
  refine ⟨accepted, fun role => ⟨ofText?_patternText base role, found role⟩, ?_, ?_⟩
  · intro first second apart name left right
    rw [spelled_iff] at left right
    exact apart (left.unique right).2
  · intro order all name
    cases first : order.find? (fun role => (namePattern base role).Found name) with
    | some role =>
        have fits : (namePattern base role).Found name := by simpa using List.find?_some first
        exact ((accepted role name).mpr ((found role name).mp fits)).symm
    | none =>
        symm
        rw [Option.eq_none_iff_forall_ne_some]
        intro role claimed
        have fits := (found role name).mpr ((accepted role name).mp claimed)
        simpa [fits] using List.find?_eq_none.mp first role (all role)

theorem signedPage_accepts_grammar :
    patternText "c++.style" .component = "^(c\\+\\+\\.style\\.)component\\.\\w+$" ∧
      Spelled "c++.style" .component "c++.style.component.ts" ∧
      ¬ Spelled "c++.style" .style "c++.style.component.ts" ∧
      [Role.component, .splitComponent, .style].find?
          (fun role => (namePattern "c++.style" role).Found "c++.style.component.ts") =
        some .component := by
  obtain ⟨accepted, -, apart, ordered⟩ := classify_accepts_grammar "c++.style"
  have role : classify "c++.style" "c++.style.component.ts" = some .component := by decide +kernel
  have spelled := (accepted _ _).mp role
  refine ⟨by decide +kernel, spelled, apart .component .style (by decide) _ spelled, ?_⟩
  rw [ordered _ fun role => by cases role <;> decide]
  exact role

end Sibling

end TemplateWiring
