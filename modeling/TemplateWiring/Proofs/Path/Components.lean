import TemplateWiring.Proofs.Path

namespace TemplateWiring.Path

variable {path dir name : List Char} {ps idle : List (List Char)}

inductive Component where
  | root
  | current
  | parent
  | name (piece : List Char)
  deriving DecidableEq, Repr

def component? (piece : List Char) : Option Component :=
  if named piece then some (if piece = ['.', '.'] then .parent else .name piece) else none

/-- The start of a path also counts where it names nothing: a separator stands for the root, and a dot
for the current folder. -/
def opening : List (List Char) → List Component
  | [] => []
  | first :: rest =>
    if first = [] ∧ rest ≠ [] then [.root] else if first = ['.'] then [.current] else []

def spell (ps : List (List Char)) : List Component := opening ps ++ ps.filterMap component?

def components (path : List Char) : List Component := spell (pieces path)

theorem component?_eq_none {piece : List Char} : component? piece = none ↔ named piece = false := by
  cases here : named piece <;> simp [component?, here]

theorem component?_name (isName : FileName name) : component? name = some (.name name) := by
  obtain ⟨-, some, dot, dots⟩ := isName
  simp [component?, named, some, dot, dots]

theorem filterMap_idle (unnamed : ∀ piece ∈ idle, named piece = false) :
    idle.filterMap component? = [] := by
  rw [List.filterMap_eq_nil_iff]
  exact fun piece member => component?_eq_none.mpr (unnamed piece member)

theorem filterMap_trimPieces (ps : List (List Char)) :
    (trimPieces ps).filterMap component? = ps.filterMap component? := by
  rcases idle_or_named ps with unnamed | ⟨earlier, piece, idle, rfl, last, unnamed⟩
  · rw [trimPieces_idle unnamed, filterMap_idle unnamed, List.filterMap_nil]
  · rw [trimPieces_named last unnamed, List.filterMap_append, List.filterMap_append,
      List.filterMap_cons, List.filterMap_cons, filterMap_idle unnamed, List.filterMap_nil]

/-- The start depends on the first piece, and where that piece is empty on whether more follows. -/
theorem opening_cons {first : List Char} {rest rest' : List (List Char)}
    (start : first = [] → (rest = [] ↔ rest' = [])) :
    opening (first :: rest) = opening (first :: rest') := by
  by_cases empty : first = []
  · simp [opening, start empty]
  · simp [opening, empty]

theorem spell_alone (isName : FileName name) (unnamed : ∀ piece ∈ idle, named piece = false) :
    spell (name :: idle) = [.name name] := by
  rw [spell, List.filterMap_cons, component?_name isName, filterMap_idle unnamed]
  simp [opening, isName.2.1, isName.2.2.1]

theorem spell_rooted {rest : List (List Char)} (isName : FileName name) (trimmed : trimPieces rest = [])
    (unnamed : ∀ piece ∈ idle, named piece = false) :
    spell ([] :: rest ++ name :: idle) = [.root, .name name] := by
  have silent : rest.filterMap component? = [] := by
    rw [← filterMap_trimPieces, trimmed, List.filterMap_nil]
  rw [spell, List.cons_append, List.filterMap_cons, List.filterMap_append, silent,
    List.filterMap_cons, component?_name isName, filterMap_idle unnamed]
  simp [opening, component?, named]

/-- A name at the end, whatever idle pieces follow it, is one component more. -/
theorem spell_name (isName : FileName name) (some : ps ≠ [])
    (unnamed : ∀ piece ∈ idle, named piece = false) (idle' : List (List Char))
    (unnamed' : ∀ piece ∈ idle', named piece = false) (start : ps = [[]] → idle' ≠ []) :
    spell (ps ++ name :: idle) = spell (ps ++ idle') ++ [.name name] := by
  have same : opening (ps ++ name :: idle) = opening (ps ++ idle') := by
    obtain ⟨first, rest, rfl⟩ := List.exists_cons_of_ne_nil some
    refine opening_cons fun empty => ?_
    simp only [empty, List.cons.injEq, true_and] at start
    simp +contextual [start]
  rw [spell, spell, same, List.filterMap_append, List.filterMap_append, filterMap_idle unnamed',
    List.filterMap_cons, component?_name isName, filterMap_idle unnamed, List.append_nil,
    List.append_assoc]

theorem solid_cons (first : List Char) (rest : List (List Char)) : solid (first :: rest) =
    if first = [] ∧ trimPieces rest = [] then [] else first :: trimPieces rest := by
  rw [solid]
  cases trimmed : trimPieces rest <;> simp

theorem spell_solid (some : solid ps ≠ []) : spell (solid ps) = spell ps := by
  cases ps with
  | nil => exact absurd rfl some
  | cons first rest =>
      rw [solid_cons] at some ⊢
      split at some
      next => exact absurd rfl some
      next kept =>
        have same : opening (first :: trimPieces rest) = opening (first :: rest) := by
          refine opening_cons fun empty => ?_
          have more : trimPieces rest ≠ [] := fun none => kept ⟨empty, none⟩
          have longer : rest ≠ [] := by
            rintro rfl
            exact more rfl
          simp [more, longer]
        rw [if_neg kept, spell, spell, same, List.filterMap_cons, List.filterMap_cons,
          filterMap_trimPieces]

theorem pieces_join (some : ps ≠ []) (plain : ∀ p ∈ ps, '/' ∉ p) : pieces (join ps) = ps := by
  induction ps with
  | nil => exact absurd rfl some
  | cons p ps ih =>
      obtain ⟨here, later⟩ := List.forall_mem_cons.mp plain
      cases ps with
      | nil => rw [join, pieces_plain here]
      | cons next ps =>
          rw [join, pieces_separator, pieces_plain here, ih (List.cons_ne_nil _ _) later]
          · rfl
          · exact List.cons_ne_nil _ _

theorem isRooted_iff : isRooted path = true ↔ ∃ rest, rest ≠ [] ∧ pieces path = [] :: rest := by
  cases path with
  | nil => simp [isRooted, pieces]
  | cons c s =>
      obtain ⟨first, rest, split⟩ := List.exists_cons_of_ne_nil (pieces_ne_nil s)
      by_cases separator : c = '/'
      · simp [separator, isRooted, pieces, pieces_ne_nil]
      · rw [pieces_cons separator split]
        simp [isRooted, separator]

theorem isRooted_append (filled : path ≠ []) (tail : List Char) :
    isRooted (path ++ tail) = isRooted path := by
  obtain ⟨c, s, rfl⟩ := List.exists_cons_of_ne_nil filled
  by_cases separator : c = '/' <;> simp [isRooted, separator]

theorem components_eq_nil : components path = [] ↔ path = [] := by
  obtain ⟨first, rest, split⟩ := List.exists_cons_of_ne_nil (pieces_ne_nil path)
  constructor
  · intro none
    rw [components, split, spell, List.append_eq_nil_iff, opening, List.filterMap_cons] at none
    obtain ⟨start, names⟩ := none
    have unnamed : named first = false := by
      rw [← component?_eq_none]
      cases here : component? first with
      | none => rfl
      | some c => simp [here] at names
    rcases named_eq_false.mp unnamed with rfl | rfl
    · have last : rest = [] := by simpa using start
      rw [← join_pieces path, split, last]
      rfl
    · simp at start
  · rintro rfl
    rfl

theorem components_inside (dir : List Char) (isName : FileName name) :
    components (inside dir name) = components dir ++ [.name name] := by
  have plain : pieces name = [name] := pieces_plain isName.1
  rw [inside]
  split
  next empty =>
    rw [empty, components, plain]
    exact spell_alone isName (by simp)
  next filled =>
    split
    next separated =>
      obtain ⟨front, rfl⟩ := List.getLast?_eq_some_iff.mp separated
      rw [components, components, List.append_assoc, List.singleton_append, pieces_separator,
        pieces_separator, plain]
      exact spell_name isName (pieces_ne_nil front) (by simp) [[]] (by simp [named])
        fun _ => List.cons_ne_nil _ _
    next =>
      have start : pieces dir ≠ [[]] := by
        intro empty
        rw [← join_pieces dir, empty] at filled
        exact filled rfl
      rw [components, components, pieces_separator, plain,
        spell_name isName (pieces_ne_nil dir) (by simp) [] (by simp) fun empty => absurd empty start,
        List.append_nil]

theorem trimPieces_subset (ps : List (List Char)) : trimPieces ps ⊆ ps := by
  rcases idle_or_named ps with unnamed | ⟨earlier, piece, idle, rfl, last, unnamed⟩
  · rw [trimPieces_idle unnamed]
    exact List.nil_subset _
  · rw [trimPieces_named last unnamed, List.append_cons earlier piece idle]
    exact List.subset_append_left _ _

theorem solid_subset (ps : List (List Char)) : solid ps ⊆ ps := by
  cases ps with
  | nil => exact List.nil_subset _
  | cons first rest =>
      rw [solid_cons]
      split
      · exact List.nil_subset _
      · exact List.cons_subset_cons first (trimPieces_subset rest)

theorem components_join (some : solid ps ≠ []) (plain : ∀ p ∈ ps, '/' ∉ p) :
    components (join (solid ps)) = spell ps := by
  have kept : pieces (join (solid ps)) = solid ps :=
    pieces_join some fun p member => plain p (solid_subset ps member)
  rw [components, kept, spell_solid some]

/-- The folder around a name is what stands before it. Where that comes to nothing, it is the root or the
empty path. -/
theorem parent?_named {earlier : List (List Char)} (isName : FileName name)
    (split : pieces path = earlier ++ name :: idle)
    (unnamed : ∀ piece ∈ idle, named piece = false) :
    parent? path = some (if solid earlier ≠ [] then join (solid earlier)
      else if isRooted path then ['/'] else []) := by
  have named : named name = true := by simp [named, isName.2.1, isName.2.2.1]
  have whole : solid (pieces path) = earlier ++ [name] := by rw [split, solid_named named unnamed]
  have before : (solid (pieces path)).dropLast = earlier := by rw [whole, List.dropLast_concat]
  obtain ⟨first, rest, filled⟩ := List.exists_cons_of_ne_nil (List.append_ne_nil_of_right_ne_nil
    earlier (List.cons_ne_nil name []))
  rw [← whole] at filled
  rw [filled] at before
  rw [parent?, filled]
  dsimp only
  rw [before]
  cases solid earlier <;> simp

theorem components_parent (last : fileName? path = some name) :
    ∃ above, parent? path = some above ∧ components path = components above ++ [.name name] := by
  obtain ⟨earlier, idle, split, unnamed, isName⟩ := fileName?_pieces.mp last
  refine ⟨_, parent?_named isName split unnamed, ?_⟩
  by_cases some : solid earlier ≠ []
  · have plain : ∀ piece ∈ earlier, '/' ∉ piece := by
      intro piece member
      apply mem_pieces_plain path
      rw [split]
      exact List.mem_append_left _ member
    have filled : earlier ≠ [] := by
      rintro rfl
      exact some rfl
    have start : earlier ≠ [[]] := by
      rintro rfl
      exact some rfl
    rw [if_pos some, components_join some plain, components, split,
      spell_name isName filled unnamed [] (by simp) fun empty => absurd empty start,
      List.append_nil]
  · rw [if_neg some]
    cases earlier with
    | nil =>
        -- The path starts with its name, and the folder has no components.
        have bare : isRooted path = false := by
          rw [Bool.eq_false_iff, Ne, isRooted_iff, split]
          rintro ⟨_, -, same⟩
          exact isName.2.1 (List.cons.inj same).1
        rw [bare, components, split]
        exact spell_alone isName unnamed
    | cons first rest =>
        -- Nothing but a separator counts before the name, and the folder is the root.
        obtain ⟨rfl, none⟩ : first = [] ∧ trimPieces rest = [] := by
          apply Decidable.byContradiction
          intro kept
          rw [solid_cons, if_neg kept] at some
          exact some (List.cons_ne_nil _ _)
        have rooted : isRooted path = true := isRooted_iff.mpr ⟨_, by simp, split⟩
        rw [if_pos rooted, components, split, spell_rooted isName none unnamed]
        rfl

theorem name_not_opening (ps : List (List Char)) (name : List Char) : .name name ∉ opening ps := by
  cases ps with
  | nil => exact List.not_mem_nil
  | cons first rest =>
      rw [opening]
      split
      · simp
      · split <;> simp

theorem fileName?_components :
    fileName? path = some name ↔ ∃ above, components path = above ++ [.name name] := by
  constructor
  · intro last
    obtain ⟨above, -, whole⟩ := components_parent last
    exact ⟨_, whole⟩
  · rintro ⟨above, whole⟩
    rw [components, spell] at whole
    rcases idle_or_named (pieces path) with unnamed | ⟨earlier, piece, idle, split, last, unnamed⟩
    · rw [filterMap_idle unnamed, List.append_nil] at whole
      have found : .name name ∈ opening (pieces path) := by simp [whole]
      exact absurd found (name_not_opening _ name)
    · have here : component? piece = some (if piece = ['.', '.'] then .parent else .name piece) := by
        rw [component?, if_pos last]
      rw [split, List.filterMap_append, List.filterMap_cons, here, filterMap_idle unnamed,
        ← List.append_assoc] at whole
      have same := List.head_eq_of_cons_eq (List.append_inj_right' whole rfl)
      have other : piece ≠ ['.', '.'] := by
        rintro rfl
        cases same
      rw [if_neg other, Component.name.injEq] at same
      rw [named, Bool.and_eq_true, decide_eq_true_iff, decide_eq_true_iff] at last
      have plain := mem_pieces_plain path piece (by simp [split])
      rw [← same]
      exact fileName?_pieces.mpr ⟨earlier, idle, split, unnamed, plain, last.1, last.2, other⟩

theorem fileName?_inside (dir : List Char) (isName : FileName name) :
    fileName? (inside dir name) = some name :=
  fileName?_components.mpr ⟨_, components_inside dir isName⟩

theorem parent?_inside (dir : List Char) (isName : FileName name) :
    ∃ above, parent? (inside dir name) = some above ∧ components above = components dir := by
  obtain ⟨above, found, whole⟩ := components_parent (fileName?_inside dir isName)
  rw [components_inside dir isName] at whole
  exact ⟨above, found, ((List.append_left_inj _).mp whole).symm⟩

/-- The folder of a path is the current one where the path is nothing but a name. -/
theorem components_folder {above : List Component} (whole : components path = above ++ [.name name]) :
    components (folder path) = if above = [] then [.current] else above := by
  obtain ⟨dir, found, parts⟩ := components_parent (fileName?_components.mpr ⟨above, whole⟩)
  obtain rfl := (List.append_left_inj _).mp (whole.symm.trans parts)
  rw [folder, found]
  by_cases here : dir = []
  · simp only [here, if_true]
    rfl
  · simp only [here, if_false, components_eq_nil]

example : components (inside (folder "page".toList) "page".toList) =
    .current :: components "page".toList := by decide +kernel

end TemplateWiring.Path
