import TemplateWiring.Proofs.Sibling.Precedence

/-! Folders among the siblings. A scan goes by names alone, so a folder counts as a file of its name:
it is registered wherever such a file would be, and changes nothing exactly if its name is outranked by
another one for all that it is fit for. -/

namespace TemplateWiring

def Document.fresh (d : Document) : Document := { filename := d.filename, options := d.options }

/-- The document with what a scan has found for a fresh one. -/
def Document.receive (d own : Document) : Document :=
  { d with
    component := own.component.or d.component
    renderer := own.renderer.or d.renderer
    dependencies := d.dependencies ++ own.dependencies }

namespace Sibling

open Text

variable {base dir : String} {names : List String}

theorem settle_receive (base dir : String) (d own : Document) (name : String) :
    settle base dir (d.receive own) name = d.receive (settle base dir own name) := by
  rw [settle, settle]
  cases classify base name with
  | none => rfl
  | some role =>
      cases role with
      | style => simp [Document.receive, Document.addDependency]
      | splitComponent => rfl
      | component => rfl

theorem settleAll_receive (base dir : String) (d : Document) (names : List String) :
    settleAll base dir d names = d.receive (settleAll base dir d.fresh names) := by
  induction names with
  | nil => simp [settleAll, Document.receive, Document.fresh]
  | cons name rest ih =>
      have unfolded (d : Document) : settleAll base dir d (name :: rest) =
          settle base dir (settleAll base dir d rest) name := rfl
      rw [unfolded, unfolded, ih, settle_receive]

def Registered (dir : String) (d : Document) (name : String) : Prop :=
  .path ("./" ++ name) ∈ d.dependencies ∨ d.component = some (fileModule dir name) ∨
    d.renderer = some (fileModule dir name)

/-- The name is that of no style file, and for each slot that it is fit for there is an earlier one. -/
def Outranked (base : String) (names : List String) (name : String) : Prop :=
  classify base name ≠ some .style ∧
    ∀ roles ∈ [[Role.splitComponent, .component], [.component]], Plays base roles name →
      ∃ other ∈ names, Plays base roles other ∧ bytes other < bytes name

instance (base : String) (names : List String) : DecidablePred (Outranked base names) :=
  fun _ => inferInstanceAs (Decidable (_ ∧ _))

theorem scanned_settleAll (base dir : String) (d : Document) (names : List String) :
    Scanned d (settleAll base dir d names) := by
  apply scanned_adoptAll names.reverse
  rw [adoptAll_eq, List.foldl_reverse]
  rfl

theorem settleAll_outranked {names' : List String} {name : String} (d : Document)
    (ascending : names.Pairwise (· ≤ ·)) (ascending' : names'.Pairwise (· ≤ ·))
    (more : names'.Perm (name :: names)) (outranked : Outranked base names name) :
    settleAll base dir d names' = settleAll base dir d names := by
  have styles : styleFiles base names' = styleFiles base names := by
    apply List.Perm.eq_of_pairwise (fun _ _ _ _ below above => le_antisymm below above)
      (ascending'.filter _) (ascending.filter _)
    have kept : styleFiles base (name :: names) = styleFiles base names :=
      List.filter_cons_of_neg (by simpa using outranked.1)
    have wider : (styleFiles base names').Perm (styleFiles base (name :: names)) := more.filter _
    rw [kept] at wider
    exact wider
  apply (scanned_settleAll base dir d names').ext (scanned_settleAll base dir d names)
  · exact slot_outranked more (component_settleAll base dir d ascending)
      (component_settleAll base dir d ascending') (outranked.2 _ (by simp))
  · exact slot_outranked more (renderer_settleAll base dir d ascending)
      (renderer_settleAll base dir d ascending') (outranked.2 _ (by simp))
  · rw [dependencies_settleAll, dependencies_settleAll, styles]

theorem registered_iff (base dir : String) (d : Document) (ascending : names.Pairwise (· ≤ ·))
    (name : String) :
    Registered dir (settleAll base dir d.fresh names) name ↔
      name ∈ names ∧ ¬ Outranked base names name := by
  have component := slot_eq_some (component_settleAll base dir d.fresh ascending) name
  have renderer := slot_eq_some (renderer_settleAll base dir d.fresh ascending) name
  have style : Dependency.path ("./" ++ name) ∈ (settleAll base dir d.fresh names).dependencies ↔
      name ∈ names ∧ classify base name = some .style := by
    rw [dependencies_settleAll]
    simp [Document.fresh, styleFiles]
  rw [Registered, style, component, renderer, Outranked]
  constructor
  · rintro (⟨member, role⟩ | ⟨member, plays, first⟩ | ⟨member, plays, first⟩)
    · exact ⟨member, fun outranked => outranked.1 role⟩
    · exact ⟨member, fun outranked => first (outranked.2 _ (by simp) plays)⟩
    · exact ⟨member, fun outranked => first (outranked.2 _ (by simp) plays)⟩
  · rintro ⟨member, not_outranked⟩
    by_contra none
    apply not_outranked
    rw [not_or, not_or] at none
    refine ⟨fun role => none.1 ⟨member, role⟩, ?_⟩
    intro roles listed plays
    by_contra first
    rcases List.mem_pair.mp listed with rfl | rfl
    · exact none.2.1 ⟨member, plays, first⟩
    · exact none.2.2 ⟨member, plays, first⟩

theorem outranked_perm {names' : List String} {name : String} (more : names'.Perm (name :: names)) :
    Outranked base names' name ↔ Outranked base names name := by
  have same (other : String) (less : bytes other < bytes name) :
      other ∈ names' ↔ other ∈ names := by
    rw [more.mem_iff, List.mem_cons, or_iff_right]
    rintro rfl
    exact absurd less (List.lt_irrefl _)
  rw [Outranked, Outranked]
  apply and_congr_right'
  apply forall₃_congr
  intro roles listed plays
  constructor
  · rintro ⟨other, member, fits, less⟩
    exact ⟨other, (same other less).mp member, fits, less⟩
  · rintro ⟨other, member, fits, less⟩
    exact ⟨other, (same other less).mpr member, fits, less⟩

theorem settleAll_new_iff {names' : List String} {name : String} (dir : String) (d : Document)
    (ascending : names.Pairwise (· ≤ ·)) (ascending' : names'.Pairwise (· ≤ ·))
    (more : names'.Perm (name :: names)) (new : name ∉ names) :
    settleAll base dir d.fresh names' = settleAll base dir d.fresh names ↔
      Outranked base names name := by
  constructor
  · intro same
    by_contra first
    have named := (registered_iff base dir d ascending' name).mpr
      ⟨more.mem_iff.mpr List.mem_cons_self, mt (outranked_perm more).mp first⟩
    rw [same, registered_iff base dir d ascending] at named
    exact new named.1
  · exact settleAll_outranked d.fresh ascending ascending' more

/-- A scan registers the names of files and of folders alike. All of them are files exactly if every
folder is outranked, and a new folder changes nothing exactly if it is. -/
theorem folders_taken_for_files (folder : Folder) (base : String) (d : Document)
    (route : List (List Char)) (found : folder.locate d.folder.toList = .ok route) :
    ∃ names own, folder.list d.folder = .ok names ∧
      Sibling.scan folder base d.fresh = .ok own ∧
      Sibling.scan folder base d = .ok (d.receive own) ∧
      (∀ name, Registered d.folder own name ↔
        (folder.kindAt (route ++ [name.toList])).isSome ∧ ¬ Outranked base names name) ∧
      ((∀ name, Registered d.folder own name →
          folder.kindAt (route ++ [name.toList]) = some .file) ↔
        ∀ name, folder.kindAt (route ++ [name.toList]) = some .folder →
          Outranked base names name) ∧
      ∀ name, folder.kindAt (route ++ [name.toList]) = none →
        (Sibling.scan (folder.insert (route ++ [name.toList]) .folder) base d.fresh = .ok own ↔
          Outranked base names name) ∧
        (Outranked base names name →
          Sibling.scan (folder.insert (route ++ [name.toList]) .folder) base d =
            .ok (d.receive own)) := by
  obtain ⟨names, readable⟩ : ∃ names, folder.list d.folder = .ok names :=
    ⟨_, Folder.list_of_locate found⟩
  have member := Folder.mem_list found readable
  have ascending := Folder.list_le readable
  have registered (name : String) :
      Registered d.folder (settleAll base d.folder d.fresh names) name ↔
        (folder.kindAt (route ++ [name.toList])).isSome ∧ ¬ Outranked base names name := by
    rw [registered_iff base d.folder d ascending, member]
  refine ⟨names, settleAll base d.folder d.fresh names, readable, scan_eq base readable, ?_,
    registered, ?_, ?_⟩
  · rw [scan_eq base readable, settleAll_receive]
  · constructor
    · intro files name stands
      by_contra first
      have file := files name ((registered name).mpr ⟨by rw [stands]; rfl, first⟩)
      rw [stands] at file
      cases file
    · intro folders name named
      obtain ⟨stands, first⟩ := (registered name).mp named
      obtain ⟨kind, stands⟩ := Option.isSome_iff_exists.mp stands
      cases kind with
      | file => exact stands
      | folder => exact absurd (folders name stands) first
  · intro name fresh
    obtain ⟨names', readable', more⟩ := Folder.list_insert found fresh .folder readable
    have ascending' := Folder.list_le readable'
    have new : name ∉ names := by
      rw [member, fresh]
      exact Bool.false_ne_true
    constructor
    · have scan' := scan_eq (d := d.fresh) base readable'
      rw [scan', Except.ok.injEq]
      exact settleAll_new_iff d.folder d ascending ascending' more new
    · intro outranked
      rw [scan_eq base readable', settleAll_outranked d ascending ascending' more outranked,
        settleAll_receive]

/-- A folder with a component and, among its folders, one that is called like a component too. -/
def quietFolder : Folder := Folder.ofPaths
  ["/srv/ui/component.js", "/srv/ui/component.ts/", "/srv/ui/style.css", "/srv/ui/parts/"]

def quietRoute : List (List Char) := ["srv".toList, "ui".toList]

def quietNames : List String := ["component.js", "component.ts", "parts", "style.css"]

def filledPage : Document where
  filename := "/srv/ui/index.marko"
  component := some (.inline "first" "/srv/ui/index.marko" "./index.marko")
  renderer := some (.inline "second" "/srv/ui/index.marko" "./index.marko")
  dependencies := [.path "./before.css"]

theorem quietFolder_registers_files :
    quietFolder.locate filledPage.folder.toList = .ok quietRoute ∧ ∃ own,
      Sibling.scan quietFolder "index" filledPage = .ok (filledPage.receive own) ∧
      (∀ name, Registered "/srv/ui" own name →
        quietFolder.kindAt (quietRoute ++ [name.toList]) = some .file) ∧
      Sibling.scan (quietFolder.insert (quietRoute ++ ["index.component".toList]) .folder) "index"
        filledPage = .ok (filledPage.receive own) := by
  have folder : filledPage.folder = "/srv/ui" := by decide +kernel
  have found : quietFolder.locate filledPage.folder.toList = .ok quietRoute := by decide +kernel
  have listed : quietFolder.list filledPage.folder = .ok quietNames := by
    rw [folder] at found ⊢
    exact Folder.list_eq found (by decide +kernel) (by decide +kernel)
  obtain ⟨names, own, readable, -, scan, -, files, new⟩ :=
    folders_taken_for_files quietFolder "index" filledPage quietRoute found
  obtain rfl : quietNames = names := Except.ok.inj (listed.symm.trans readable)
  rw [folder] at files
  refine ⟨found, own, scan, files.mpr ?_, (new _ (by decide +kernel)).2 (by decide +kernel)⟩
  intro name stands
  have member : name ∈ quietFolder.namesIn quietRoute := by
    rw [Folder.mem_namesIn, stands]
    rfl
  have outranked : ∀ name ∈ quietFolder.namesIn quietRoute,
      quietFolder.kindAt (quietRoute ++ [name.toList]) = some .folder →
        Outranked "index" quietNames name := by decide +kernel
  exact outranked name member stands

/-- A new folder called `component.js` gets both slots of the document and takes them from the file
`component.ts`. -/
theorem newFolder_displaces_file :
    let before := Folder.ofPaths ["component.ts"]
    let after := before.insert ["component.js".toList] .folder
    let d : Document := { filename := "index.marko" }
    let taken (name : String) : Document :=
      { d with
        component := some (fileModule d.folder name)
        renderer := some (fileModule d.folder name) }
    before.kindAt ["component.js".toList] = none ∧
      after.kindAt ["component.js".toList] = some .folder ∧
      Sibling.scan before "index" d = .ok (taken "component.ts") ∧
      Sibling.scan after "index" d = .ok (taken "component.js") ∧
      taken "component.js" ≠ taken "component.ts" := by
  intro before after d taken
  have folder : d.folder = "." := by decide +kernel
  have listed : before.list d.folder = .ok ["component.ts"] := by
    have found : before.locate ".".toList = .ok [] := by decide +kernel
    rw [folder]
    exact Folder.list_eq found (by decide +kernel) (by decide +kernel)
  have listed' : after.list d.folder = .ok ["component.js", "component.ts"] := by
    have found : after.locate ".".toList = .ok [] := by decide +kernel
    rw [folder]
    exact Folder.list_eq found (by decide +kernel) (by decide +kernel)
  refine ⟨by decide +kernel, by decide +kernel, ?_, ?_, by decide +kernel⟩
  · rw [scan_eq "index" listed]
    decide +kernel
  · rw [scan_eq "index" listed']
    decide +kernel

end Sibling

end TemplateWiring
