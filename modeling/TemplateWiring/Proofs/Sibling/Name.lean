import TemplateWiring.Proofs.Text.Parts
import TemplateWiring.Sibling.Name

namespace TemplateWiring.Sibling

open Text

def WordRun (ext : List Char) : Prop := ext ≠ [] ∧ ∀ c ∈ ext, isWord c = true

inductive Named (base : List Char) (role : Role) : List Char → Prop
  | own (ext : List Char) (run : WordRun ext) :
      Named base role ((base ++ '.' :: role.word.toList) ++ '.' :: ext)
  | entry (index : base = "index".toList) (ext : List Char) (run : WordRun ext) :
      Named base role (role.word.toList ++ '.' :: ext)

theorem WordRun.no_dot {ext : List Char} (run : WordRun ext) : '.' ∉ ext := by
  intro found
  have dot : isWord '.' = false := by decide
  rw [run.2 '.' found] at dot
  cases dot

theorem Named.stem {base name : List Char} {role : Role} (named : Named base role name) :
    ∃ stem ext, name = stem ++ '.' :: ext ∧ stem ≠ [] ∧ WordRun ext := by
  cases named with
  | own ext run => exact ⟨_, ext, rfl, by simp, run⟩
  | entry index ext run => exact ⟨_, ext, rfl, by cases role <;> decide, run⟩

theorem isExtension_iff (rest : List Char) :
    isExtension rest = true ↔ ∃ ext, WordRun ext ∧ rest = '.' :: ext := by
  rw [isExtension.eq_def]
  split
  next ext => simp [WordRun]
  next other =>
    simp only [Bool.false_eq_true, false_iff, not_exists, not_and]
    rintro ext - same
    exact other ext same

theorem mem_leads (base lead : List Char) :
    lead ∈ leads base ↔ lead = base ++ ['.'] ∨ base = "index".toList ∧ lead = [] := by
  rw [leads]
  by_cases entry : base = "index".toList
  · rw [if_pos entry, List.mem_cons, List.mem_singleton, and_iff_right entry]
  · rw [if_neg entry, List.mem_singleton, or_iff_left (fun both => entry both.1)]

theorem hasRole_iff (base name : List Char) (role : Role) :
    hasRole base name role = true ↔ Named base role name := by
  rw [hasRole, List.any_eq_true]
  constructor
  · rintro ⟨lead, member, accepted⟩
    split at accepted
    next rest cut =>
      obtain ⟨ext, run, rfl⟩ := (isExtension_iff rest).mp accepted
      rw [after?_eq_some.mp cut]
      rcases (mem_leads base lead).mp member with own | ⟨entry, bare⟩
      · rw [own, List.append_assoc base]
        exact .own ext run
      · rw [bare, List.nil_append]
        exact .entry entry ext run
    next => cases accepted
  · intro named
    cases named with
    | own ext run =>
        refine ⟨base ++ ['.'], (mem_leads base _).mpr (.inl rfl), ?_⟩
        rw [after?_eq_some.mpr (by rw [List.append_assoc base ['.'], List.singleton_append])]
        exact (isExtension_iff _).mpr ⟨ext, run, rfl⟩
    | entry index ext run =>
        refine ⟨[], (mem_leads base _).mpr (.inr ⟨index, rfl⟩), ?_⟩
        rw [after?_eq_some.mpr (by rw [List.nil_append])]
        exact (isExtension_iff _).mpr ⟨ext, run, rfl⟩

def Lead (base lead : String) : Prop := lead = base ++ "." ∨ base = "index" ∧ lead = ""

def Spelled (base : String) (role : Role) (name : String) : Prop :=
  ∃ lead ext : String, Lead base lead ∧ WordRun ext.toList ∧ name = lead ++ role.word ++ "." ++ ext

theorem named_iff (base name : List Char) (role : Role) : Named base role name ↔
    ∃ lead ∈ leads base, ∃ ext, WordRun ext ∧ name = lead ++ role.word.toList ++ '.' :: ext := by
  constructor
  · intro named
    cases named with
    | own ext run =>
        exact ⟨base ++ ['.'], (mem_leads base _).mpr (.inl rfl), ext, run, by simp⟩
    | entry index ext run => exact ⟨[], (mem_leads base _).mpr (.inr ⟨index, rfl⟩), ext, run, rfl⟩
  · rintro ⟨lead, member, ext, run, rfl⟩
    rcases (mem_leads base lead).mp member with rfl | ⟨index, rfl⟩
    · rw [List.append_assoc base, List.singleton_append]
      exact .own ext run
    · exact .entry index ext run

theorem lead_iff (base lead : String) : Lead base lead ↔ lead.toList ∈ leads base.toList := by
  have own : lead = base ++ "." ↔ lead.toList = base.toList ++ ['.'] := by
    rw [← String.toList_inj, String.toList_append]
    rfl
  rw [mem_leads, Lead, own, String.toList_inj, String.toList_eq_nil_iff]

theorem spelled_iff (base name : String) (role : Role) :
    Spelled base role name ↔ Named base.toList role name.toList := by
  rw [named_iff]
  constructor
  · rintro ⟨lead, ext, before, run, rfl⟩
    exact ⟨lead.toList, (lead_iff base lead).mp before, ext.toList, run, by simp⟩
  · rintro ⟨lead, member, ext, run, whole⟩
    refine ⟨String.ofList lead, String.ofList ext, ?_, by rwa [String.toList_ofList], ?_⟩
    · rwa [lead_iff, String.toList_ofList]
    · rw [← String.toList_inj, whole]
      simp

/-- What stands before the last two dots of a name, and between them. A name with one dot is taken
as one of the entry's. -/
def cutName (name : List Char) : Option (List Char × List Char) :=
  (splitLast? '.' name).map fun parts =>
    (splitLast? '.' parts.1).getD ("index".toList, parts.1)

theorem word_no_dot (role : Role) : '.' ∉ role.word.toList := by
  cases role <;> decide

theorem Named.cutName {base name : List Char} {role : Role} (named : Named base role name) :
    cutName name = some (base, role.word.toList) := by
  cases named with
  | own ext run =>
      rw [Sibling.cutName, splitLast?_append _ run.no_dot, Option.map_some,
        splitLast?_append _ (word_no_dot role), Option.getD_some]
  | entry index ext run =>
      rw [Sibling.cutName, splitLast?_append _ run.no_dot, Option.map_some,
        splitLast?_eq_none.mpr (word_no_dot role), Option.getD_none, index]

theorem word_injective {first second : Role}
    (same : first.word.toList = second.word.toList) : first = second := by
  revert same
  cases first <;> cases second <;> decide

theorem Named.unique {first second name : List Char} {role role' : Role}
    (left : Named first role name) (right : Named second role' name) :
    first = second ∧ role = role' := by
  have same := left.cutName.symm.trans right.cutName
  rw [Option.some.injEq, Prod.mk.injEq] at same
  exact ⟨same.1, word_injective same.2⟩

theorem classify_eq_some (base name : String) (role : Role) :
    classify base name = some role ↔ Named base.toList role name.toList := by
  rw [← hasRole_iff, classify]
  constructor
  · exact List.find?_some
  · intro held
    cases found : Role.all.find? (hasRole base.toList name.toList) with
    | some other =>
        have named := (hasRole_iff _ _ _).mp (List.find?_some found)
        rw [(named.unique ((hasRole_iff _ _ _).mp held)).2]
    | none =>
        have listed : role ∈ Role.all := by cases role <;> decide
        exact absurd held (List.find?_eq_none.mp found role listed)

theorem word_ne_index (role : Role) : role.word.toList ≠ "index".toList := by
  cases role <;> decide

/-- A file that is left with nothing but its base name and an extension plays no role for it. -/
theorem not_named_self {name stem : List Char} {extension : Option (List Char)} (role : Role)
    (split : Path.splitExtension name = (stem, extension)) : ¬ Named stem role name := by
  intro named
  have cut := named.cutName
  rw [cutName] at cut
  rw [Path.splitExtension] at split
  cases last : splitLast? '.' name with
  | none => simp [last] at cut
  | some parts =>
      obtain ⟨front, ext⟩ := parts
      rw [last, Option.map_some, Option.some.injEq] at cut
      simp only [last] at split
      by_cases hidden : front = []
      · rw [hidden] at cut
        have blank : role.word.toList = [] := (congrArg Prod.snd cut).symm
        cases role <;> exact absurd blank (by decide)
      · rw [if_neg hidden, Prod.mk.injEq] at split
        obtain ⟨rfl, -⟩ := split
        -- The base name would have to stand before a dot of its own, or be the word of a role.
        cases inner : splitLast? '.' front with
        | none =>
            rw [inner, Option.getD_none, Prod.mk.injEq] at cut
            exact word_ne_index role (cut.2.symm.trans cut.1.symm)
        | some parts =>
            obtain ⟨shorter, word⟩ := parts
            rw [inner, Option.getD_some, Prod.mk.injEq] at cut
            have whole := (eq_of_splitLast? inner).1
            rw [cut.1] at whole
            have longer := congrArg List.length whole
            rw [List.length_append, List.length_cons] at longer
            omega

theorem baseName?_eq_some {filename templateExtension base : String}
    (found : baseName? filename templateExtension = some base) :
    ∃ name, Path.fileName? filename.toList = some name ∧
      (Path.splitExtension name).1 = base.toList := by
  rw [baseName?] at found
  cases last : Path.fileName? filename.toList with
  | none => simp [last] at found
  | some name =>
      refine ⟨name, rfl, ?_⟩
      simp only [last] at found
      split at found
      · cases found
      · split at found
        · cases found
        · rw [← Option.some.inj found, String.toList_ofList]

/-- A file has one owner at most: what two base names claim, they claim as the same base name. And a
document never takes its own file for one of its siblings. -/
theorem files_owned_once :
    (∀ name first second : String, (classify first name).isSome → (classify second name).isSome →
      first = second) ∧
    ∀ filename templateExtension base : String,
      baseName? filename templateExtension = some base →
        ∃ name, Path.fileName? filename.toList = some name ∧
          classify base (String.ofList name) = none := by
  constructor
  · intro name first second left right
    obtain ⟨role, left⟩ := Option.isSome_iff_exists.mp left
    obtain ⟨role', right⟩ := Option.isSome_iff_exists.mp right
    rw [classify_eq_some] at left right
    exact String.toList_inj.mp (left.unique right).1
  · intro filename templateExtension base found
    obtain ⟨name, last, stem⟩ := baseName?_eq_some found
    refine ⟨name, last, ?_⟩
    rw [Option.eq_none_iff_forall_ne_some]
    intro role claimed
    rw [classify_eq_some, String.toList_ofList, ← stem] at claimed
    exact not_named_self role rfl claimed

theorem componentPage_owned_by_index :
    classify "index" "index.component.marko" = some .component ∧
      (∀ base, (classify base "index.component.marko").isSome → base = "index") ∧
      baseName? "lib/index.component.marko" "js" = some "index.component" ∧
      ∃ name, Path.fileName? "lib/index.component.marko".toList = some name ∧
        classify "index.component" (String.ofList name) = none := by
  have claimed : classify "index" "index.component.marko" = some .component := by decide +kernel
  have named : baseName? "lib/index.component.marko" "js" = some "index.component" := by
    decide +kernel
  refine ⟨claimed, ?_, named, files_owned_once.2 _ _ _ named⟩
  intro base other
  exact files_owned_once.1 _ base "index" other (by rw [claimed]; rfl)

end TemplateWiring.Sibling
