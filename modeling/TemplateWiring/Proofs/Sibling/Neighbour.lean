import TemplateWiring.Proofs.Path.Components
import TemplateWiring.Proofs.Sibling.Name
import TemplateWiring.Proofs.Sibling.Precedence

namespace TemplateWiring.Sibling

open Text

/-- The module of the file with that name in the document's folder, which is required by the name without
its extension. -/
structure Neighbour (d : Document) (name : String) (m : Module) : Prop where
  outside : m.isInline = false
  last : Path.fileName? m.filename.toList = some name.toList
  folder : ∃ above, Path.parent? m.filename.toList = some above ∧
    Path.components above = Path.components d.folder.toList
  extended : ∃ ext : String, ext ≠ "" ∧ '.' ∉ ext.toList ∧
    m.requirePath ++ "." ++ ext = "./" ++ name

theorem Named.fileName {base name : List Char} {role : Role} (named : Named base role name)
    (plain : '/' ∉ name) : Path.FileName name := by
  obtain ⟨stem, ext, rfl, filled, run⟩ := named.stem
  have longer : 3 ≤ (stem ++ '.' :: ext).length := by
    have front := List.length_pos_iff.mpr filled
    have back := List.length_pos_iff.mpr run.1
    rw [List.length_append, List.length_cons]
    omega
  have apart {other : List Char} (short : other.length < 3) : stem ++ '.' :: ext ≠ other := by
    rintro rfl
    omega
  exact ⟨plain, apart (by decide), apart (by decide), apart (by decide)⟩

theorem neighbour_fileModule {base name : String} {role : Role} (d : Document)
    (named : Named base.toList role name.toList) (plain : '/' ∉ name.toList) :
    Neighbour d name (fileModule d.folder name) := by
  have isName := named.fileName plain
  have path : (fileModule d.folder name).filename.toList =
      Path.inside d.folder.toList name.toList := String.toList_ofList
  constructor
  · rfl
  · rw [path, Path.fileName?_inside _ isName]
  · rw [path]
    exact Path.parent?_inside _ isName
  · have role : (classify base name).isSome := by
      rw [(classify_eq_some base name role).mpr named]
      rfl
    obtain ⟨stem, ext, whole, filled, last, required⟩ := fileModule_eq d.folder role
    refine ⟨ext, filled, last, ?_⟩
    rw [required, whole, Module.requirePath, String.append_assoc, String.append_assoc,
      String.append_assoc]

/-- The folder of a document and its own name make up its path, except that a path of one name gets a
dot in front. The module of a file that plays a role is that of the file in this folder, required by the
name without its extension, and such a module is what a scan puts into a slot. Its path leads to the
entry that was listed. -/
theorem siblings_beside_document (d : Document) :
    (∀ above name, Path.components d.filename.toList = above ++ [.name name] →
      d.basename = String.ofList name ∧
      Path.components (Path.inside d.folder.toList d.basename.toList) =
        (if above = [] then [.current] else []) ++ Path.components d.filename.toList) ∧
    (∀ base name, (classify base name).isSome → '/' ∉ name.toList →
      (splitLast? '.' name.toList).isSome ∧ Neighbour d name (fileModule d.folder name)) ∧
    ∀ (folder : Folder) base names, folder.list d.folder = .ok names →
      (∃ after, Sibling.scan folder base d = .ok after ∧
        Slot names (Plays base [.splitComponent, .component]) (fileModule d.folder) d.component
          after.component ∧
        Slot names (Plays base [.component]) (fileModule d.folder) d.renderer after.renderer) ∧
      ∀ route, folder.locate d.folder.toList = .ok route → folder.kindAt route = some .folder →
        ∀ name ∈ names, (classify base name).isSome → '/' ∉ name.toList →
          folder.locate (fileModule d.folder name).filename.toList =
            .ok (route ++ [name.toList]) := by
  refine ⟨?_, ?_, ?_⟩
  · intro above name whole
    have last := Path.fileName?_components.mpr ⟨above, whole⟩
    have isName := (Path.fileName?_eq_some.mp last).isName
    have own : d.basename = String.ofList name := by rw [Document.basename, last]
    have dir : d.folder.toList = Path.folder d.filename.toList := String.toList_ofList
    refine ⟨own, ?_⟩
    rw [own, dir, String.toList_ofList, Path.components_inside _ isName,
      Path.components_folder whole, whole]
    by_cases alone : above = [] <;> simp [alone]
  · intro base name role plain
    obtain ⟨role, found⟩ := Option.isSome_iff_exists.mp role
    have named := (classify_eq_some base name role).mp found
    refine ⟨?_, neighbour_fileModule d named plain⟩
    obtain ⟨stem, ext, whole, -, run⟩ := named.stem
    rw [whole, splitLast?_append stem run.no_dot]
    rfl
  · intro folder base names readable
    have ascending := Folder.list_le readable
    refine ⟨⟨_, scan_eq base readable, component_settleAll base d.folder d ascending,
      renderer_settleAll base d.folder d ascending⟩, ?_⟩
    intro route found here name member role plain
    obtain ⟨role, named⟩ := Option.isSome_iff_exists.mp role
    have isName := ((classify_eq_some base name role).mp named).fileName plain
    have there := (Folder.mem_list found readable name).mp member
    rw [fileModule, Module.filename, String.toList_ofList]
    exact Folder.locate_inside found here isName there

def windingFolder : Folder := Folder.ofPaths
  ["/srv/ui/tab.v2.component.js", "/srv/ui/tab.v2.style.css", "/srv/ui/tab.v2.marko"] "/srv/site"

def windingNames : List String := ["tab.v2.component.js", "tab.v2.marko", "tab.v2.style.css"]

def windingPage : Document where
  filename := "/srv/site/..//ui/./tab.v2.marko/."
  renderer := some (.inline "first" "/srv/ui/tab.v2.marko" "./tab.v2.marko")

theorem windingPage_siblings_beside :
    Path.components windingPage.filename.toList =
        [.root, .name "srv".toList, .name "site".toList, .parent, .name "ui".toList] ++
          [.name "tab.v2.marko".toList] ∧
      windingPage.basename = "tab.v2.marko" ∧
      Path.components (Path.inside windingPage.folder.toList windingPage.basename.toList) =
        Path.components windingPage.filename.toList ∧
      ((classify "tab.v2" "tab.v2.component.js").isSome ∧ '/' ∉ "tab.v2.component.js".toList) ∧
      Neighbour windingPage "tab.v2.component.js"
        (fileModule windingPage.folder "tab.v2.component.js") ∧
      windingFolder.list windingPage.folder = .ok windingNames ∧
      (∃ after, Sibling.scan windingFolder "tab.v2" windingPage = .ok after ∧
        after.renderer = some (fileModule windingPage.folder "tab.v2.component.js")) ∧
      windingFolder.locate (fileModule windingPage.folder "tab.v2.component.js").filename.toList =
        .ok ["srv".toList, "ui".toList, "tab.v2.component.js".toList] := by
  obtain ⟨own, lies, filled⟩ := siblings_beside_document windingPage
  have whole : Path.components windingPage.filename.toList =
      [.root, .name "srv".toList, .name "site".toList, .parent, .name "ui".toList] ++
        [.name "tab.v2.marko".toList] := by
    decide +kernel
  have role : (classify "tab.v2" "tab.v2.component.js").isSome := by decide +kernel
  have plain : '/' ∉ "tab.v2.component.js".toList := by decide +kernel
  have found : windingFolder.locate windingPage.folder.toList = .ok ["srv".toList, "ui".toList] := by
    decide +kernel
  have readable : windingFolder.list windingPage.folder = .ok windingNames :=
    Folder.list_eq found (by decide +kernel) (by decide +kernel)
  obtain ⟨⟨after, scan, -, slot⟩, leads⟩ := filled windingFolder "tab.v2" windingNames readable
  have only : ∀ name ∈ windingNames, Plays "tab.v2" [.component] name →
      name = "tab.v2.component.js" := by decide +kernel
  have listed : "tab.v2.component.js" ∈ windingNames := by decide +kernel
  have fits : Plays "tab.v2" [.component] "tab.v2.component.js" := by decide +kernel
  obtain ⟨name, member, plays, -, taken⟩ := slot_taken slot listed fits
  rw [only name member plays] at taken
  obtain ⟨called, rebuilt⟩ := own _ _ whole
  exact ⟨whole, called, rebuilt, ⟨role, plain⟩, (lies _ _ role plain).2, readable,
    ⟨after, scan, taken⟩, leads _ found (by decide +kernel) _ listed role plain⟩

end TemplateWiring.Sibling
