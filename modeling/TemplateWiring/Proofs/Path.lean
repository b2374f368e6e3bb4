import TemplateWiring.Path
import TemplateWiring.Proofs.Text.Parts

namespace TemplateWiring.Path

open Text

variable {path name front back : List Char} {piece : List Char} {earlier idle : List (List Char)}

theorem pieces_ne_nil (path : List Char) : pieces path ≠ [] := by
  cases path with
  | nil => exact List.cons_ne_nil _ _
  | cons c s =>
      rw [pieces]
      split
      · exact List.cons_ne_nil _ _
      · split <;> exact List.cons_ne_nil _ _

theorem pieces_cons {c : Char} (plain : c ≠ '/') {s first : List Char} {rest : List (List Char)}
    (split : pieces s = first :: rest) : pieces (c :: s) = (c :: first) :: rest := by
  rw [pieces, if_neg plain, split]

theorem pieces_plain (plain : '/' ∉ piece) : pieces piece = [piece] := by
  induction piece with
  | nil => rfl
  | cons c s ih =>
      rw [List.mem_cons, not_or] at plain
      exact pieces_cons (Ne.symm plain.1) (ih plain.2)

theorem pieces_separator (front back : List Char) :
    pieces (front ++ '/' :: back) = pieces front ++ pieces back := by
  induction front with
  | nil => rfl
  | cons c s ih =>
      by_cases separator : c = '/'
      · rw [List.cons_append, pieces, if_pos separator, ih, pieces, if_pos separator,
          List.cons_append]
      · obtain ⟨first, rest, split⟩ := List.exists_cons_of_ne_nil (pieces_ne_nil s)
        have later : pieces (s ++ '/' :: back) = first :: (rest ++ pieces back) := by
          rw [ih, split, List.cons_append]
        rw [List.cons_append, pieces_cons separator later, pieces_cons separator split,
          List.cons_append]

theorem mem_pieces_plain (path : List Char) : ∀ piece ∈ pieces path, '/' ∉ piece := by
  induction path with
  | nil => simp [pieces]
  | cons c s ih =>
      by_cases separator : c = '/'
      · rw [pieces, if_pos separator]
        exact List.forall_mem_cons.mpr ⟨List.not_mem_nil, ih⟩
      · obtain ⟨first, rest, split⟩ := List.exists_cons_of_ne_nil (pieces_ne_nil s)
        rw [pieces_cons separator split]
        rw [split, List.forall_mem_cons] at ih
        refine List.forall_mem_cons.mpr ⟨?_, ih.2⟩
        rw [List.mem_cons, not_or]
        exact ⟨Ne.symm separator, ih.1⟩

/-- The text of pieces that each end in a separator, and of pieces that each start with one. -/
theorem join_around (earlier : List (List Char)) (piece : List Char) (later : List (List Char)) :
    join (earlier ++ piece :: later) =
      earlier.flatMap (· ++ ['/']) ++ piece ++ later.flatMap ('/' :: ·) := by
  have behind (piece : List Char) (later : List (List Char)) :
      join (piece :: later) = piece ++ later.flatMap ('/' :: ·) := by
    induction later generalizing piece with
    | nil => exact (List.append_nil piece).symm
    | cons next later ih =>
        rw [join, ih, List.flatMap_cons, List.cons_append]
        exact List.cons_ne_nil _ _
  induction earlier with
  | nil => exact behind piece later
  | cons first earlier ih =>
      rw [List.cons_append, join, ih, List.flatMap_cons]
      · simp
      · simp

theorem join_pieces (path : List Char) : join (pieces path) = path := by
  induction path with
  | nil => rfl
  | cons c s ih =>
      obtain ⟨first, rest, split⟩ := List.exists_cons_of_ne_nil (pieces_ne_nil s)
      have whole (piece : List Char) : join (piece :: rest) = piece ++ rest.flatMap ('/' :: ·) :=
        join_around [] piece rest
      rw [split, whole] at ih
      by_cases separator : c = '/'
      · rw [pieces, if_pos separator, split, separator]
        exact congrArg ('/' :: ·) ((whole first).trans ih)
      · rw [pieces_cons separator split, whole, List.cons_append, ih]

theorem named_eq_false : named piece = false ↔ piece = [] ∨ piece = ['.'] := by
  by_cases empty : piece = [] <;> simp [named, empty]

theorem trimPieces_idle (unnamed : ∀ piece ∈ idle, named piece = false) : trimPieces idle = [] := by
  induction idle with
  | nil => rfl
  | cons piece idle ih =>
      obtain ⟨first, rest⟩ := List.forall_mem_cons.mp unnamed
      rw [trimPieces, ih rest]
      simp [first]

theorem trimPieces_named (last : named piece = true)
    (unnamed : ∀ piece ∈ idle, named piece = false) :
    trimPieces (earlier ++ piece :: idle) = earlier ++ [piece] := by
  induction earlier with
  | nil =>
      rw [List.nil_append, trimPieces, trimPieces_idle unnamed]
      simp [last]
  | cons first earlier ih =>
      rw [List.cons_append, trimPieces, ih]
      cases earlier <;> rfl

theorem solid_named (last : named piece = true)
    (unnamed : ∀ piece ∈ idle, named piece = false) :
    solid (earlier ++ piece :: idle) = earlier ++ [piece] := by
  cases earlier with
  | nil =>
      have some : piece ≠ [] := by
        rintro rfl
        cases last
      rw [List.nil_append, solid, trimPieces_idle unnamed]
      simp [some]
  | cons first earlier =>
      rw [List.cons_append, solid, trimPieces_named last unnamed]
      cases earlier <;> rfl

/-- Pieces that name nothing, or a last one that names something and such pieces behind it. -/
theorem idle_or_named (pieces : List (List Char)) : (∀ piece ∈ pieces, named piece = false) ∨
    ∃ earlier piece idle, pieces = earlier ++ piece :: idle ∧ named piece = true ∧
      ∀ piece ∈ idle, named piece = false := by
  induction pieces with
  | nil => exact .inl fun _ member => absurd member List.not_mem_nil
  | cons first rest ih =>
      rcases ih with unnamed | ⟨earlier, piece, idle, rfl, last, unnamed⟩
      · cases here : named first with
        | true => exact .inr ⟨[], first, rest, rfl, here, unnamed⟩
        | false => exact .inl (List.forall_mem_cons.mpr ⟨here, unnamed⟩)
      · exact .inr ⟨first :: earlier, piece, idle, rfl, last, unnamed⟩

def FileName (name : List Char) : Prop :=
  '/' ∉ name ∧ name ≠ [] ∧ name ≠ ['.'] ∧ name ≠ ['.', '.']

instance : DecidablePred FileName := fun _ => inferInstanceAs (Decidable (_ ∧ _))

theorem fileName?_pieces : fileName? path = some name ↔ ∃ earlier idle,
    pieces path = earlier ++ name :: idle ∧ (∀ piece ∈ idle, named piece = false) ∧
      FileName name := by
  constructor
  · intro found
    rw [fileName?] at found
    rcases idle_or_named (pieces path) with unnamed | ⟨earlier, piece, idle, split, last, unnamed⟩
    · obtain ⟨first, rest, split⟩ := List.exists_cons_of_ne_nil (pieces_ne_nil path)
      rw [split] at unnamed found
      obtain ⟨here, later⟩ := List.forall_mem_cons.mp unnamed
      rw [solid, trimPieces_idle later] at found
      rcases named_eq_false.mp here with rfl | rfl
      · cases found
      · cases found
    · rw [split, solid_named last unnamed, List.getLast?_concat] at found
      simp only [Option.ite_none_left_eq_some, not_or, Option.some.injEq] at found
      obtain ⟨⟨dot, dots⟩, rfl⟩ := found
      have plain := mem_pieces_plain path piece (by rw [split]; simp)
      refine ⟨earlier, idle, split, unnamed, plain, ?_, dot, dots⟩
      rintro rfl
      cases last
  · rintro ⟨earlier, idle, split, unnamed, plain, some, dot, dots⟩
    have last : named name = true := by simp [named, some, dot]
    rw [fileName?, split, solid_named last unnamed, List.getLast?_concat]
    simp [dot, dots]

/-- What names nothing at the end of a path: separators, some with a dot behind them. -/
inductive Idle : List Char → Prop
  | nothing : Idle []
  | separator {rest : List Char} (later : Idle rest) : Idle ('/' :: rest)
  | dot {rest : List Char} (later : Idle rest) : Idle ('/' :: '.' :: rest)

theorem idle_flatMap (unnamed : ∀ piece ∈ idle, named piece = false) :
    Idle (idle.flatMap ('/' :: ·)) := by
  induction idle with
  | nil => exact .nothing
  | cons piece idle ih =>
      obtain ⟨first, rest⟩ := List.forall_mem_cons.mp unnamed
      rw [List.flatMap_cons]
      rcases named_eq_false.mp first with rfl | rfl
      · exact .separator (ih rest)
      · exact .dot (ih rest)

theorem pieces_idle {tail : List Char} (ends : Idle tail) (plain : '/' ∉ piece) :
    ∃ idle, pieces (piece ++ tail) = piece :: idle ∧ ∀ piece ∈ idle, named piece = false := by
  induction ends generalizing piece with
  | nothing => exact ⟨[], by rw [List.append_nil, pieces_plain plain], by simp⟩
  | separator _ ih =>
      obtain ⟨idle, split, unnamed⟩ := @ih [] List.not_mem_nil
      refine ⟨[] :: idle, ?_, List.forall_mem_cons.mpr ⟨rfl, unnamed⟩⟩
      rw [pieces_separator, pieces_plain plain]
      exact congrArg (piece :: ·) split
  | dot _ ih =>
      obtain ⟨idle, split, unnamed⟩ := @ih ['.'] (by decide)
      refine ⟨['.'] :: idle, ?_, List.forall_mem_cons.mpr ⟨rfl, unnamed⟩⟩
      rw [pieces_separator, pieces_plain plain]
      exact congrArg (piece :: ·) split

/-- The path ends in the name: it starts the path or follows a separator, and nothing behind it names
anything. -/
structure Ends (path name : List Char) : Prop where
  isName : FileName name
  stands : ∃ front tail, path = front ++ name ++ tail ∧
    (front = [] ∨ front.getLast? = some '/') ∧ Idle tail

theorem fileName?_eq_some : fileName? path = some name ↔ Ends path name := by
  rw [fileName?_pieces]
  constructor
  · rintro ⟨earlier, idle, split, unnamed, isName⟩
    refine ⟨isName, earlier.flatMap (· ++ ['/']), idle.flatMap ('/' :: ·), ?_, ?_,
      idle_flatMap unnamed⟩
    · rw [← join_around, ← split, join_pieces]
    · rcases List.eq_nil_or_concat earlier with rfl | ⟨_, _, rfl⟩
      · exact .inl rfl
      · exact .inr (by simp)
  · rintro ⟨isName, front, tail, rfl, starts, ends⟩
    obtain ⟨idle, split, unnamed⟩ := pieces_idle ends isName.1
    rcases starts with rfl | separated
    · exact ⟨[], idle, by rw [List.nil_append, split, List.nil_append], unnamed, isName⟩
    · obtain ⟨folder, rfl⟩ := List.getLast?_eq_some_iff.mp separated
      refine ⟨pieces folder, idle, ?_, unnamed, isName⟩
      rw [List.append_assoc, List.append_assoc, List.singleton_append, pieces_separator, split]

theorem fileName?_self (isName : FileName name) : fileName? name = some name :=
  fileName?_eq_some.mpr ⟨isName, [], [], by simp, .inl rfl, .nothing⟩

def dotted : Option (List Char) → List Char
  | none => []
  | some ext => '.' :: ext

/-- The extension of a file name: what follows the last dot, unless that is the first character. -/
inductive Extension (name : List Char) : Option (List Char) → Prop
  | absent (leading : '.' ∉ name.tail) : Extension name none
  | present (stem ext : List Char) (named : stem ≠ []) (last : '.' ∉ ext)
      (whole : name = stem ++ '.' :: ext) : Extension name (some ext)

theorem Extension.stem {extension : Option (List Char)} (extends_ : Extension name extension) :
    ∃ stem, name = stem ++ dotted extension := by
  cases extends_ with
  | absent leading => exact ⟨name, (List.append_nil name).symm⟩
  | present stem ext named last whole => exact ⟨stem, whole⟩

theorem splitExtension_absent (leading : '.' ∉ name.tail) : splitExtension name = (name, none) := by
  rw [splitExtension]
  cases name with
  | nil => rfl
  | cons c s =>
      by_cases dot : c = '.'
      · have first : splitLast? '.' ('.' :: s) = some ([], s) := splitLast?_append [] leading
        rw [dot, first]
        rfl
      · have none : splitLast? '.' (c :: s) = none := by
          rw [splitLast?_eq_none, List.mem_cons, not_or]
          exact ⟨Ne.symm dot, leading⟩
        rw [none]

theorem splitExtension_present {stem ext : List Char} (named : stem ≠ []) (last : '.' ∉ ext) :
    splitExtension (stem ++ '.' :: ext) = (stem, some ext) := by
  rw [splitExtension, splitLast?_append stem last]
  simp [named]

theorem splitExtension_eq {stem : List Char} {extension : Option (List Char)} :
    splitExtension name = (stem, extension) ↔
      name = stem ++ dotted extension ∧ Extension name extension := by
  constructor
  · intro split
    rw [splitExtension] at split
    cases last : splitLast? '.' name with
    | none =>
        simp only [last, Prod.mk.injEq] at split
        obtain ⟨rfl, rfl⟩ := split
        refine ⟨(List.append_nil _).symm, .absent fun found => ?_⟩
        exact splitLast?_eq_none.mp last (List.mem_of_mem_tail found)
    | some parts =>
        obtain ⟨front, ext⟩ := parts
        obtain ⟨rfl, no_dot⟩ := eq_of_splitLast? last
        simp only [last] at split
        by_cases hidden : front = []
        · rw [if_pos hidden, Prod.mk.injEq] at split
          obtain ⟨rfl, rfl⟩ := split
          refine ⟨(List.append_nil _).symm, .absent ?_⟩
          rwa [hidden]
        · rw [if_neg hidden, Prod.mk.injEq] at split
          obtain ⟨rfl, rfl⟩ := split
          exact ⟨rfl, .present front ext hidden no_dot rfl⟩
  · rintro ⟨whole, extends_⟩
    cases extends_ with
    | absent leading =>
        rw [splitExtension_absent leading, whole]
        exact congrArg (·, none) (List.append_nil stem)
    | present front ext named last parts =>
        rw [parts] at whole
        obtain rfl := (List.append_left_inj _).mp whole
        rw [parts, splitExtension_present named last]

theorem stem_ne_nil {stem : List Char} {extension : Option (List Char)} (some : name ≠ [])
    (split : splitExtension name = (stem, extension)) : stem ≠ [] := by
  obtain ⟨whole, extends_⟩ := splitExtension_eq.mp split
  cases extends_ with
  | absent leading =>
      intro empty
      rw [empty] at whole
      exact some whole
  | present front ext named last parts =>
      rw [parts] at whole
      obtain rfl := (List.append_left_inj _).mp whole
      exact named

theorem inside_injective {dir first second : List Char}
    (same : inside dir first = inside dir second) : first = second := by
  rw [inside, inside] at same
  split at same
  · exact same
  · split at same
    · exact (List.append_right_inj dir).mp same
    · exact (List.cons.inj ((List.append_right_inj dir).mp same)).2

end TemplateWiring.Path
