import TemplateWiring.Proofs.Path
import TemplateWiring.Sibling.Name

namespace TemplateWiring.Sibling

inductive Slip where
  | underflow
  | insideCharacter
  | emptyStem
  deriving DecidableEq, Repr

def takeBytes? (s : String) (n : Nat) : Option String :=
  if boundary : (⟨n⟩ : String.Pos.Raw).IsValid s then
    some (s.sliceTo (s.pos ⟨n⟩ boundary)).copy
  else none

def cutExtension (name : String) : Option String → Except Slip String
  | none => .ok name
  | some ext =>
    if name.utf8ByteSize < ext.utf8ByteSize + 1 then .error .underflow
    else
      match takeBytes? name (name.utf8ByteSize - ext.utf8ByteSize - 1) with
      | none => .error .insideCharacter
      | some stem => .ok stem

/-- The base name cut out by counting bytes. The file name is taken for a path of its own, to find the
extension. -/
def cutBaseName (filename templateExtension : String) : Except Slip (Option String) :=
  match Path.fileName? filename.toList with
  | none => .ok none
  | some name =>
    let extension := (Path.fileName? name).bind fun name => (Path.splitExtension name).2
    if extension = some (templateExtension.toList.dropWhile (· = '.')) then .ok none
    else
      match cutExtension (String.ofList name) (extension.map String.ofList) with
      | .error slip => .error slip
      | .ok stem => if stem = "" then .error .emptyStem else .ok (some stem)

theorem takeBytes?_append (front back : String) :
    takeBytes? (front ++ back) front.utf8ByteSize = some front := by
  have boundary : (⟨front.utf8ByteSize⟩ : String.Pos.Raw).IsValid (front ++ back) :=
    String.Pos.Raw.isValid_iff_exists_append.mpr ⟨front, back, rfl, rfl⟩
  have splits : ((front ++ back).pos _ boundary).Splits front back := ⟨rfl, rfl⟩
  rw [takeBytes?, dif_pos boundary, (String.Pos.splits _).eq_left splits]

theorem cutExtension_split {name stem : List Char} {extension : Option (List Char)}
    (split : Path.splitExtension name = (stem, extension)) :
    cutExtension (String.ofList name) (extension.map String.ofList) = .ok (String.ofList stem) := by
  obtain ⟨rfl, -⟩ := Path.splitExtension_eq.mp split
  cases extension with
  | none => rw [Path.dotted, List.append_nil, Option.map_none, cutExtension]
  | some ext =>
      have whole : String.ofList (stem ++ Path.dotted (some ext)) =
          String.ofList stem ++ ("." ++ String.ofList ext) := by
        rw [← String.toList_inj]
        simp [Path.dotted]
      have size : (String.ofList stem ++ ("." ++ String.ofList ext)).utf8ByteSize =
          (String.ofList stem).utf8ByteSize + (1 + (String.ofList ext).utf8ByteSize) := by
        rw [String.utf8ByteSize_append, String.utf8ByteSize_append]
        rfl
      have front : (String.ofList stem ++ ("." ++ String.ofList ext)).utf8ByteSize -
          (String.ofList ext).utf8ByteSize - 1 = (String.ofList stem).utf8ByteSize := by
        omega
      rw [whole, Option.map_some, cutExtension, if_neg (by omega), front, takeBytes?_append]

section named

variable {filename templateExtension : String} {name stem : List Char}
  {extension : Option (List Char)}

theorem baseName?_split (ends : Path.Ends filename.toList name)
    (split : Path.splitExtension name = (stem, extension)) :
    baseName? filename templateExtension =
      if extension = some (templateExtension.toList.dropWhile (· = '.')) then none
      else some (String.ofList stem) := by
  have filled : stem ≠ [] := Path.stem_ne_nil ends.isName.2.1 split
  rw [baseName?, Path.fileName?_eq_some.mpr ends]
  simp only [split, if_neg filled]

theorem cutBaseName_split (ends : Path.Ends filename.toList name)
    (split : Path.splitExtension name = (stem, extension)) :
    cutBaseName filename templateExtension =
      .ok (if extension = some (templateExtension.toList.dropWhile (· = '.')) then none
        else some (String.ofList stem)) := by
  have filled : String.ofList stem ≠ "" := by
    rw [Ne, ← String.toList_inj, String.toList_ofList]
    exact Path.stem_ne_nil ends.isName.2.1 split
  rw [cutBaseName, Path.fileName?_eq_some.mpr ends]
  simp only [Path.fileName?_self ends.isName, Option.bind_some, split, cutExtension_split split,
    if_neg filled]
  split <;> rfl

end named

theorem cutBaseName_eq (filename templateExtension : String) :
    cutBaseName filename templateExtension = .ok (baseName? filename templateExtension) := by
  cases found : Path.fileName? filename.toList with
  | none => rw [cutBaseName, baseName?, found]
  | some name =>
      have ends := Path.fileName?_eq_some.mp found
      rw [cutBaseName_split ends rfl, baseName?_split ends rfl]

theorem baseName?_eq_some_iff {filename templateExtension base : String} :
    baseName? filename templateExtension = some base ↔ ∃ name extension,
      Path.Ends filename.toList name ∧ Path.Extension name extension ∧
        extension ≠ some (templateExtension.toList.dropWhile (· = '.')) ∧
        name = base.toList ++ Path.dotted extension := by
  constructor
  · intro found
    cases last : Path.fileName? filename.toList with
    | none =>
        rw [baseName?, last] at found
        cases found
    | some name =>
        have ends := Path.fileName?_eq_some.mp last
        obtain ⟨whole, extends_⟩ := Path.splitExtension_eq.mp (rfl : Path.splitExtension name = _)
        rw [baseName?_split ends rfl, Option.ite_none_left_eq_some, Option.some.injEq] at found
        obtain ⟨other, rfl⟩ := found
        exact ⟨name, _, ends, extends_, other, by rwa [String.toList_ofList]⟩
  · rintro ⟨name, extension, ends, extends_, other, whole⟩
    have split := Path.splitExtension_eq.mpr ⟨whole, extends_⟩
    rw [baseName?_split ends split, if_neg other, String.ofList_toList]

/-- A document has a base name exactly if its path ends in a name whose extension is absent or not the
one of templates. The base name is then that name, or what stands before a dot and the extension. It
can be cut out by counting bytes: the lengths are subtracted without underflow, no character is cut in
two, and something is left. -/
theorem base_name_extracted (filename templateExtension : String) :
    ((∃ base, baseName? filename templateExtension = some base) ↔ ∃ name extension,
      Path.Ends filename.toList name ∧ Path.Extension name extension ∧
        extension ≠ some (templateExtension.toList.dropWhile (· = '.'))) ∧
    (∀ base, baseName? filename templateExtension = some base → base ≠ "" ∧ ∃ name extension,
      Path.Ends filename.toList name ∧ Path.Extension name extension ∧
        name = base.toList ++ Path.dotted extension) ∧
    cutBaseName filename templateExtension = .ok (baseName? filename templateExtension) := by
  refine ⟨⟨?_, ?_⟩, ?_, cutBaseName_eq filename templateExtension⟩
  · rintro ⟨base, found⟩
    obtain ⟨name, extension, ends, extends_, other, -⟩ := baseName?_eq_some_iff.mp found
    exact ⟨name, extension, ends, extends_, other⟩
  · rintro ⟨name, extension, ends, extends_, other⟩
    obtain ⟨stem, whole⟩ := extends_.stem
    refine ⟨String.ofList stem, baseName?_eq_some_iff.mpr ⟨name, extension, ends, extends_, other, ?_⟩⟩
    rw [String.toList_ofList, whole]
  · intro base found
    obtain ⟨name, extension, ends, extends_, -, whole⟩ := baseName?_eq_some_iff.mp found
    refine ⟨?_, name, extension, ends, extends_, whole⟩
    rintro rfl
    exact Path.stem_ne_nil ends.isName.2.1 (Path.splitExtension_eq.mpr ⟨whole, extends_⟩) rfl

theorem hiddenPage_base_name :
    Path.Ends "lib//.a.é.tar/./".toList ".a.é.tar".toList ∧
      Path.Extension ".a.é.tar".toList (some "tar".toList) ∧
      (∃ base, baseName? "lib//.a.é.tar/./" "..js" = some base) ∧
      baseName? "lib//.a.é.tar/./" "..js" = some ".a.é" ∧
      (".a.é" ≠ "" ∧ ∃ name extension, Path.Ends "lib//.a.é.tar/./".toList name ∧
        Path.Extension name extension ∧ name = ".a.é".toList ++ Path.dotted extension) ∧
      cutBaseName "lib//.a.é.tar/./" "..js" = .ok (some ".a.é") := by
  have ends : Path.Ends "lib//.a.é.tar/./".toList ".a.é.tar".toList :=
    ⟨by decide, "lib//".toList, "/./".toList, rfl, .inr rfl, .dot (.separator .nothing)⟩
  have extends_ : Path.Extension ".a.é.tar".toList (some "tar".toList) :=
    .present ".a.é".toList _ (by decide) (by decide) rfl
  obtain ⟨named, shape, cut⟩ := base_name_extracted "lib//.a.é.tar/./" "..js"
  have found : baseName? "lib//.a.é.tar/./" "..js" = some ".a.é" := by decide +kernel
  rw [found] at cut
  exact ⟨ends, extends_, named.mpr ⟨_, _, ends, extends_, by decide⟩, found, shape _ found, cut⟩

end TemplateWiring.Sibling
