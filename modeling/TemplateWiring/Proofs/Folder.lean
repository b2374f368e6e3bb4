import Mathlib.Data.String.Basic
import TemplateWiring.Folder
import TemplateWiring.Proofs.Path.Components

namespace TemplateWiring.Folder

theorem sorted_le (names : List String) : (sorted names).Pairwise (· ≤ ·) := by
  have ordered : (sorted names).Pairwise (fun a b => (!decide (b < a)) = true) := by
    apply List.pairwise_mergeSort
    · intro a b c first second
      simp only [Bool.not_eq_true', decide_eq_false_iff_not, not_lt] at first second ⊢
      exact le_trans first second
    · intro a b
      rcases le_total a b with less | less
      · simp [not_lt.mpr less]
      · simp [not_lt.mpr less]
  apply ordered.imp
  intro a b lesseq
  simpa only [Bool.not_eq_true', decide_eq_false_iff_not, not_lt] using lesseq

theorem sorted_perm (names : List String) : (sorted names).Perm names := List.mergeSort_perm names _

theorem sorted_ascending (names : List String) (distinct : names.Nodup) :
    (sorted names).Pairwise (· < ·) := by
  have apart : (sorted names).Nodup := (sorted_perm names).nodup_iff.mpr distinct
  apply ((sorted_le names).and apart).imp
  rintro a b ⟨lesseq, ne⟩
  exact lt_of_le_of_ne lesseq ne

theorem names_of_list {folder : Folder} {dir : String} {names : List String}
    (readable : folder.list dir = .ok names) :
    ∃ route, folder.locate dir.toList = .ok route ∧ names = sorted (folder.namesIn route) := by
  rw [list] at readable
  split at readable
  next route found =>
      cases readable
      exact ⟨route, found, rfl⟩
  next => cases readable

theorem list_le {folder : Folder} {dir : String} {names : List String}
    (readable : folder.list dir = .ok names) : names.Pairwise (· ≤ ·) := by
  obtain ⟨route, -, rfl⟩ := names_of_list readable
  exact sorted_le _

theorem list_ascending {folder : Folder} {dir : String} {names : List String}
    (readable : folder.list dir = .ok names) (distinct : names.Nodup) :
    names.Pairwise (· < ·) := by
  obtain ⟨route, -, rfl⟩ := names_of_list readable
  exact sorted_ascending _ ((sorted_perm _).nodup_iff.mp distinct)

theorem sorted_eq {names listed : List String} (ascending : listed.Pairwise (· < ·))
    (same : listed.Perm names) : sorted names = listed := by
  have distinct : names.Nodup := same.nodup_iff.mp (ascending.imp ne_of_lt)
  apply List.Perm.eq_of_pairwise (fun _ _ _ _ less greater => absurd less (lt_asymm greater))
    (sorted_ascending names distinct) ascending
  exact (sorted_perm names).trans same.symm

theorem list_eq {folder : Folder} {dir : String} {route : List (List Char)} {listed : List String}
    (found : folder.locate dir.toList = .ok route) (ascending : listed.Pairwise (· < ·))
    (same : listed.Perm (folder.namesIn route)) : folder.list dir = .ok listed := by
  rw [list, found, ← sorted_eq ascending same]

def Unrepeated (folder : Folder) : Prop :=
  folder.entries.Pairwise fun first second => first.route ≠ second.route

theorem unrepeated_insert {folder : Folder} (held : folder.Unrepeated) (route : List (List Char))
    (kind : EntryKind) : (folder.insert route kind).Unrepeated := by
  rw [insert]
  split
  next => exact held
  next vacant =>
    rw [Option.isSome_iff_ne_none, not_not, kindAt] at vacant
    split at vacant
    · cases vacant
    · rw [Option.map_eq_none_iff, List.find?_eq_none] at vacant
      rw [Unrepeated, List.pairwise_append]
      refine ⟨held, List.pairwise_singleton _ _, ?_⟩
      intro entry member new last
      rw [List.mem_singleton.mp last]
      simpa using vacant entry member

theorem unrepeated_add {folder : Folder} (held : folder.Unrepeated) (path : List Char) :
    (folder.add path).Unrepeated := by
  apply unrepeated_insert
  generalize leading (folder.start path ++ routeOf path) = routes
  induction routes generalizing folder with
  | nil => exact held
  | cons route rest ih => exact ih (unrepeated_insert held route .folder)

theorem unrepeated_working (home : String) : (working home).Unrepeated := by
  have none : empty.Unrepeated := List.Pairwise.nil
  exact unrepeated_add none _

theorem unrepeated_ofPaths (paths : List String) (home : String) :
    (ofPaths paths home).Unrepeated := by
  rw [ofPaths]
  have first := unrepeated_working home
  generalize working home = folder at first
  induction paths generalizing folder with
  | nil => exact first
  | cons path rest ih => exact ih _ (unrepeated_add first path.toList)

def listedName? (route : List (List Char)) (entry : Entry) : Option String :=
  match entry.route.getLast? with
  | none => none
  | some last => if entry.route.dropLast = route then some (String.ofList last) else none

theorem namesIn_eq (folder : Folder) (route : List (List Char)) :
    folder.namesIn route = folder.entries.filterMap (listedName? route) := rfl

theorem listedName?_eq_some {entry : Entry} {route : List (List Char)} {name : String} :
    listedName? route entry = some name ↔ entry.route = route ++ [name.toList] := by
  rw [listedName?]
  constructor
  · intro listed
    split at listed
    · cases listed
    next last found =>
        rw [Option.ite_none_right_eq_some, Option.some.injEq] at listed
        obtain ⟨above, rfl⟩ := listed
        obtain ⟨front, whole⟩ := List.getLast?_eq_some_iff.mp found
        rw [whole, List.dropLast_concat] at above
        rw [whole, above, String.toList_ofList]
  · intro stands
    rw [stands, List.getLast?_concat, List.dropLast_concat]
    simp

theorem namesIn_nodup {folder : Folder} (held : folder.Unrepeated) (route : List (List Char)) :
    (folder.namesIn route).Nodup := by
  rw [namesIn_eq, List.Nodup, List.pairwise_filterMap]
  apply held.imp
  intro first second apart name found name' found' same
  apply apart
  rw [listedName?_eq_some.mp found, listedName?_eq_some.mp found', same]

theorem list_nodup {folder : Folder} {dir : String} {names : List String}
    (held : folder.Unrepeated) (readable : folder.list dir = .ok names) : names.Nodup := by
  obtain ⟨route, -, rfl⟩ := names_of_list readable
  exact (sorted_perm _).nodup_iff.mpr (namesIn_nodup held route)

theorem list_of_locate {folder : Folder} {dir : String} {route : List (List Char)}
    (found : folder.locate dir.toList = .ok route) :
    folder.list dir = .ok (sorted (folder.namesIn route)) := by
  rw [list, found]

section insert

variable {folder : Folder} {route other : List (List Char)} {name : String} {kind : EntryKind}

theorem mem_namesIn :
    name ∈ folder.namesIn route ↔ (folder.kindAt (route ++ [name.toList])).isSome := by
  rw [namesIn_eq, List.mem_filterMap, kindAt, if_neg (by simp), Option.isSome_map, List.find?_isSome]
  apply exists_congr
  intro entry
  rw [listedName?_eq_some, decide_eq_true_iff]

theorem mem_list {dir : String} {names : List String} (found : folder.locate dir.toList = .ok route)
    (readable : folder.list dir = .ok names) (name : String) :
    name ∈ names ↔ (folder.kindAt (route ++ [name.toList])).isSome := by
  rw [list_of_locate found, Except.ok.injEq] at readable
  rw [← readable, (sorted_perm _).mem_iff, mem_namesIn]

theorem insert_fresh (fresh : folder.kindAt route = none) (kind : EntryKind) :
    folder.insert route kind = { folder with entries := folder.entries ++ [⟨route, kind⟩] } := by
  rw [insert, fresh]
  rfl

@[simp] theorem home_insert : (folder.insert route kind).home = folder.home := by
  rw [insert]
  split <;> rfl

@[simp] theorem start_insert (path : List Char) :
    (folder.insert route kind).start path = folder.start path := by
  rw [start, start, home_insert]

theorem kindAt_insert {known : EntryKind} (found : folder.kindAt other = some known) :
    (folder.insert route kind).kindAt other = some known := by
  cases taken : folder.kindAt route with
  | some present =>
      rw [insert, taken]
      exact found
  | none =>
      rw [insert_fresh taken]
      rw [kindAt] at found ⊢
      split at found
      next top => rw [if_pos top, found]
      next below =>
        obtain ⟨entry, first, same⟩ := Option.map_eq_some_iff.mp found
        rw [if_neg below, List.find?_append, first, Option.some_or, Option.map_some, same]

theorem follow_insert {ps : List (List Char)} {reached : List (List Char)}
    (found : folder.follow other ps = .ok reached) :
    (folder.insert route kind).follow other ps = .ok reached := by
  induction ps generalizing other with
  | nil => exact found
  | cons p ps ih =>
      rw [follow] at found ⊢
      cases here : folder.kindAt other with
      | none => simp [here] at found
      | some known =>
          rw [here] at found
          -- Every route that has been gone through exists, so none of them is the new one.
          rw [kindAt_insert here]
          cases known with
          | file => cases found
          | folder =>
              dsimp only at found ⊢
              split at found
              next stay => rw [if_pos stay, ih found]
              next go =>
                rw [if_neg go]
                split at found
                next up => rw [if_pos up, ih found]
                next down =>
                  rw [if_neg down]
                  split at found
                  · cases found
                  next there =>
                    obtain ⟨next, known⟩ := Option.ne_none_iff_exists'.mp
                      (mt Option.isNone_iff_eq_none.mpr there)
                    rw [if_neg (by rw [kindAt_insert known]; simp), ih found]

theorem locate_insert {dir : List Char} {reached : List (List Char)}
    (found : folder.locate dir = .ok reached) :
    (folder.insert route kind).locate dir = .ok reached := by
  rw [locate] at found ⊢
  split at found
  · cases found
  next some =>
    rw [if_neg some, start_insert]
    exact follow_insert found

theorem namesIn_insert (fresh : folder.kindAt (route ++ [name.toList]) = none) :
    (folder.insert (route ++ [name.toList]) kind).namesIn route = folder.namesIn route ++ [name] := by
  rw [insert_fresh fresh, namesIn_eq, namesIn_eq, List.filterMap_append, List.filterMap_cons,
    listedName?_eq_some.mpr rfl, List.filterMap_nil]

theorem list_insert {dir : String} {names : List String}
    (found : folder.locate dir.toList = .ok route)
    (fresh : folder.kindAt (route ++ [name.toList]) = none) (kind : EntryKind)
    (readable : folder.list dir = .ok names) :
    ∃ names', (folder.insert (route ++ [name.toList]) kind).list dir = .ok names' ∧
      names'.Perm (name :: names) := by
  rw [list_of_locate found, Except.ok.injEq] at readable
  subst readable
  refine ⟨_, list_of_locate (locate_insert found), ?_⟩
  rw [namesIn_insert fresh]
  have placed := (sorted_perm (folder.namesIn route ++ [name])).trans
    (List.perm_append_singleton name _)
  exact placed.trans ((sorted_perm _).symm.cons name)

end insert

section follow

variable {folder : Folder} {route reached ps : List (List Char)} {dir : List Char}

theorem follow_append (folder : Folder) (route ps qs : List (List Char)) :
    folder.follow route (ps ++ qs) = (folder.follow route ps).bind (folder.follow · qs) := by
  induction ps generalizing route with
  | nil => rfl
  | cons p ps ih =>
      rw [List.cons_append, follow, follow]
      cases folder.kindAt route with
      | none => rfl
      | some kind =>
          cases kind with
          | file => rfl
          | folder =>
              dsimp only
              by_cases stay : p = [] ∨ p = ['.']
              · rw [if_pos stay, if_pos stay, ih]
              by_cases up : p = ['.', '.']
              · rw [if_neg stay, if_pos up, if_neg stay, if_pos up, ih]
              by_cases gone : (folder.kindAt (route ++ [p])).isNone
              · rw [if_neg stay, if_neg up, if_pos gone, if_neg stay, if_neg up, if_pos gone]
                rfl
              · rw [if_neg stay, if_neg up, if_neg gone, if_neg stay, if_neg up, if_neg gone, ih]

theorem locate_eq (filled : dir ≠ []) :
    folder.locate dir = folder.follow (folder.start dir) (Path.pieces dir) := by
  rw [locate, if_neg filled]

theorem start_append (filled : dir ≠ []) (tail : List Char) :
    folder.start (dir ++ tail) = folder.start dir := by
  rw [start, start, Path.isRooted_append filled]

theorem follow_name {name : List Char} (isName : Path.FileName name)
    (here : folder.kindAt route = some .folder) (there : (folder.kindAt (route ++ [name])).isSome) :
    folder.follow route [name] = .ok (route ++ [name]) := by
  obtain ⟨-, some, dot, dots⟩ := isName
  obtain ⟨kind, there⟩ := Option.isSome_iff_exists.mp there
  rw [follow, here]
  simp [some, dot, dots, there, follow]

theorem follow_separator (found : folder.follow route (ps ++ [[]]) = .ok reached) :
    folder.follow route ps = .ok reached := by
  rw [follow_append] at found
  cases before : folder.follow route ps with
  | error cause =>
      rw [before] at found
      cases found
  | ok stop =>
      rw [before, Except.bind, follow] at found
      split at found
      next => cases found
      next => cases found
      next =>
        rw [if_pos (Or.inl rfl)] at found
        exact found

/-- The path of a name inside a folder leads to what stands under the name there. -/
theorem locate_inside {name : List Char} (found : folder.locate dir = .ok route)
    (here : folder.kindAt route = some .folder) (isName : Path.FileName name)
    (there : (folder.kindAt (route ++ [name])).isSome) :
    folder.locate (Path.inside dir name) = .ok (route ++ [name]) := by
  have filled : dir ≠ [] := by
    rintro rfl
    cases found
  rw [locate_eq filled] at found
  have step {ps : List (List Char)} (led : folder.follow (folder.start dir) ps = .ok route) :
      folder.follow (folder.start dir) (ps ++ Path.pieces name) = .ok (route ++ [name]) := by
    rw [follow_append, led, Path.pieces_plain isName.1]
    exact follow_name isName here there
  rw [Path.inside, if_neg filled]
  split
  next separated =>
    rw [locate_eq (List.append_ne_nil_of_left_ne_nil filled _), start_append filled]
    obtain ⟨front, rfl⟩ := List.getLast?_eq_some_iff.mp separated
    have split : Path.pieces (front ++ ['/']) = Path.pieces front ++ [[]] :=
      Path.pieces_separator front []
    rw [split] at found
    rw [List.append_assoc, List.singleton_append, Path.pieces_separator]
    exact step (follow_separator found)
  next =>
    rw [locate_eq (List.append_ne_nil_of_left_ne_nil filled _), start_append filled,
      Path.pieces_separator]
    exact step found

end follow

end TemplateWiring.Folder
