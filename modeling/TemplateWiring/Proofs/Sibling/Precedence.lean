import TemplateWiring.Proofs.Folder
import TemplateWiring.Proofs.Path
import TemplateWiring.Proofs.Sibling.Name
import TemplateWiring.Proofs.Sibling.Scan
import TemplateWiring.Proofs.Text.Bytes

namespace TemplateWiring

namespace Sibling

open Text

def settle (base dir : String) (d : Document) (name : String) : Document :=
  match classify base name with
  | none => d
  | some .style => d.addDependency (.path ("./" ++ name))
  | some .splitComponent => { d with component := some (fileModule dir name) }
  | some .component =>
    { d with component := some (fileModule dir name), renderer := some (fileModule dir name) }

def settleAll (base dir : String) (d : Document) (names : List String) : Document :=
  names.foldr (fun name d => settle base dir d name) d

theorem fileModule_injective {dir first second : String}
    (same : fileModule dir first = fileModule dir second) : first = second := by
  rw [fileModule, fileModule, Module.file.injEq, String.ofList_inj] at same
  exact String.toList_inj.mp (Path.inside_injective same.1)

theorem stem_eq {front ext : List Char} (last : '.' ∉ ext) :
    stem (String.ofList (front ++ '.' :: ext)) = String.ofList front := by
  rw [stem, String.toList_ofList, splitLast?_append front last]

/-- The module of a file that plays a role is the file itself, required by its name up to the last
dot. -/
theorem fileModule_eq {base name : String} (dir : String) (role : (classify base name).isSome) :
    ∃ stem ext : String, name = stem ++ "." ++ ext ∧ ext ≠ "" ∧ '.' ∉ ext.toList ∧
      fileModule dir name =
        .file (String.ofList (Path.inside dir.toList name.toList)) ("./" ++ stem) := by
  obtain ⟨role, found⟩ := Option.isSome_iff_exists.mp role
  obtain ⟨front, ext, whole, -, run⟩ := ((classify_eq_some base name role).mp found).stem
  have text : name = String.ofList (front ++ '.' :: ext) := by
    rw [← whole, String.ofList_toList]
  refine ⟨String.ofList front, String.ofList ext, ?_, ?_, ?_, ?_⟩
  · rw [text, ← String.toList_inj]
    simp
  · rw [Ne, ← String.toList_inj, String.toList_ofList]
    exact run.1
  · rw [String.toList_ofList]
    exact run.no_dot
  · rw [fileModule, text, stem_eq run.no_dot]

/-- A file is never refused its slot, whatever the slot held. -/
theorem setComponent_file (d : Document) (dir name : String) :
    d.setComponent (fileModule dir name) =
      .ok { d with component := some (fileModule dir name) } := by
  rw [Document.setComponent]
  cases d.component with
  | none => rfl
  | some existing =>
      have outside : (fileModule dir name).isInline = false := rfl
      simp [outside]

theorem adopt_eq (base dir : String) (d : Document) (name : String) :
    adopt base dir d name = .ok (settle base dir d name) := by
  rw [adopt, settle]
  cases classify base name with
  | none => rfl
  | some role =>
      cases role with
      | style => rfl
      | splitComponent => exact setComponent_file d dir name
      | component =>
          simp only [setComponent_file]
          rfl

theorem adoptAll_eq (base dir : String) (d : Document) (names : List String) :
    adoptAll base dir d names = .ok (names.foldl (settle base dir) d) := by
  induction names generalizing d with
  | nil => rfl
  | cons name rest ih =>
      rw [adoptAll, adopt_eq]
      exact ih _

theorem scan_eq {folder : Folder} {d : Document} {names : List String} (base : String)
    (readable : folder.list d.folder = .ok names) :
    Sibling.scan folder base d = .ok (settleAll base d.folder d names) := by
  have opened : Sibling.scan folder base d = adoptAll base d.folder d names.reverse := by
    unfold Sibling.scan
    rw [readable]
  rw [opened, adoptAll_eq, List.foldl_reverse]
  rfl

theorem settled_of_scan {folder : Folder} {base : String} {d after : Document}
    (scan : Sibling.scan folder base d = .ok after) :
    ∃ names, folder.list d.folder = .ok names ∧ after = settleAll base d.folder d names := by
  cases readable : folder.list d.folder with
  | error e =>
      unfold Sibling.scan at scan
      rw [readable] at scan
      cases scan
  | ok names =>
      rw [scan_eq base readable, Except.ok.injEq] at scan
      exact ⟨names, rfl, scan.symm⟩

def Plays (base : String) (roles : List Role) (name : String) : Prop :=
  ∃ role ∈ roles, classify base name = some role

instance (base : String) (roles : List Role) : DecidablePred (Plays base roles) :=
  fun _ => inferInstanceAs (Decidable (∃ _ ∈ _, _))

variable {base dir : String} {names : List String}

/-- Where a file of some roles takes a slot and no other file touches it, the slot goes to the first
such file of the list. -/
theorem slot_settleAll (slot : Document → Option Module) (roles : List Role)
    (step : ∀ d name, slot (settle base dir d name) =
      if Plays base roles name then some (fileModule dir name) else slot d)
    (d : Document) (names : List String) : slot (settleAll base dir d names) =
      ((names.find? (Plays base roles ·)).map (fileModule dir)).or (slot d) := by
  induction names with
  | nil => rfl
  | cons name rest ih =>
      have unfolded : settleAll base dir d (name :: rest) =
          settle base dir (settleAll base dir d rest) name := rfl
      rw [unfolded, step, List.find?_cons]
      by_cases plays : Plays base roles name
      · simp [plays]
      · simp [plays, ih]

theorem component_settle (d : Document) (name : String) : (settle base dir d name).component =
    if Plays base [.splitComponent, .component] name then some (fileModule dir name)
    else d.component := by
  rw [settle]
  cases found : classify base name with
  | none => simp [Plays, found]
  | some role => cases role <;> simp [Plays, found, Document.addDependency]

theorem renderer_settle (d : Document) (name : String) : (settle base dir d name).renderer =
    if Plays base [.component] name then some (fileModule dir name) else d.renderer := by
  rw [settle]
  cases found : classify base name with
  | none => simp [Plays, found]
  | some role => cases role <;> simp [Plays, found, Document.addDependency]

def styleFiles (base : String) (names : List String) : List String :=
  names.filter fun name => classify base name = some .style

theorem dependencies_settle (d : Document) (name : String) :
    (settle base dir d name).dependencies =
      d.dependencies ++ (styleFiles base [name]).map fun name => .path ("./" ++ name) := by
  rw [settle]
  cases found : classify base name with
  | none => simp [styleFiles, found]
  | some role => cases role <;> simp [styleFiles, found, Document.addDependency]

theorem dependencies_settleAll (d : Document) (names : List String) :
    (settleAll base dir d names).dependencies =
      d.dependencies ++ (styleFiles base names).reverse.map fun name => .path ("./" ++ name) := by
  induction names with
  | nil => exact (List.append_nil _).symm
  | cons name rest ih =>
      have unfolded : settleAll base dir d (name :: rest) =
          settle base dir (settleAll base dir d rest) name := rfl
      have split : styleFiles base (name :: rest) = styleFiles base [name] ++ styleFiles base rest :=
        List.filter_append (p := fun name => classify base name = some .style) [name] rest
      have single : (styleFiles base [name]).reverse = styleFiles base [name] := by
        by_cases style : classify base name = some .style <;> simp [styleFiles, style]
      rw [unfolded, dependencies_settle, ih, split, List.reverse_append, single, List.map_append,
        List.append_assoc]

/-- What becomes of a slot: it goes to the file with the smallest name among those that are fit for
it, or stays as it is when there is none. -/
inductive Slot (names : List String) (fit : String → Prop) (make : String → Module)
    (before : Option Module) : Option Module → Prop
  | smallest (name : String) (member : name ∈ names) (fits : fit name)
      (least : ∀ other ∈ names, fit other → bytes name ≤ bytes other) :
      Slot names fit make before (some (make name))
  | kept (none : ∀ name ∈ names, ¬ fit name) : Slot names fit make before before

theorem slot_find? {fit : String → Prop} [DecidablePred fit] (make : String → Module)
    (before : Option Module) (ascending : names.Pairwise (· ≤ ·)) :
    Slot names fit make before (((names.find? (fit ·)).map make).or before) := by
  cases found : names.find? (fit ·) with
  | none =>
      apply Slot.kept
      intro name member
      simpa using List.find?_eq_none.mp found name member
  | some name =>
      obtain ⟨fits, front, back, whole, earlier⟩ := List.find?_eq_some_iff_append.mp found
      refine .smallest name (List.mem_of_find?_eq_some found) (by simpa using fits) ?_
      intro other member other_fits
      rw [bytes_le_iff]
      rw [whole, List.mem_append, List.mem_cons] at member
      rw [whole, List.pairwise_append, List.pairwise_cons] at ascending
      rcases member with before | same | after
      · have unfit := earlier other before
        simp [other_fits] at unfit
      · exact le_of_eq same.symm
      · exact ascending.2.1.1 other after

section slot

variable {fit : String → Prop} {make : String → Module} {before after : Option Module}

theorem slot_taken {other : String} (slot : Slot names fit make before after)
    (member : other ∈ names) (fits : fit other) :
    ∃ name ∈ names, fit name ∧ (∀ other ∈ names, fit other → bytes name ≤ bytes other) ∧
      after = some (make name) := by
  cases slot with
  | smallest name inside plays least => exact ⟨name, inside, plays, least, rfl⟩
  | kept none => exact absurd fits (none other member)

theorem slot_eq_some (slot : Slot names fit (fileModule dir) none after) (name : String) :
    after = some (fileModule dir name) ↔
      name ∈ names ∧ fit name ∧ ¬ ∃ other ∈ names, fit other ∧ bytes other < bytes name := by
  cases slot with
  | smallest first member fits least =>
      constructor
      · intro same
        obtain rfl := fileModule_injective (Option.some.inj same)
        refine ⟨member, fits, ?_⟩
        rintro ⟨other, inside, plays, less⟩
        exact absurd less (List.not_lt.mpr (least other inside plays))
      · rintro ⟨inside, plays, none⟩
        have second : bytes name ≤ bytes first :=
          List.not_lt.mp fun less => none ⟨first, member, fits, less⟩
        rw [le_antisymm (bytes_le_iff.mp (least name inside plays)) (bytes_le_iff.mp second)]
  | kept none =>
      constructor
      · intro same
        cases same
      · rintro ⟨inside, plays, -⟩
        exact absurd plays (none name inside)

theorem slot_unique {after' : Option Module} (slot : Slot names fit make before after)
    (slot' : Slot names fit make before after') : after = after' := by
  cases slot with
  | smallest first member fits least =>
      cases slot' with
      | smallest second member' fits' least' =>
          have below := bytes_le_iff.mp (least second member' fits')
          have above := bytes_le_iff.mp (least' first member fits)
          rw [le_antisymm below above]
      | kept none => exact absurd fits (none first member)
  | kept none =>
      cases slot' with
      | smallest second member' fits' least' => exact absurd fits' (none second member')
      | kept none' => rfl

theorem slot_cons {name : String} (slot : Slot names fit make before after)
    (outranked : fit name → ∃ other ∈ names, fit other ∧ bytes other < bytes name) :
    Slot (name :: names) fit make before after := by
  cases slot with
  | smallest first member fits least =>
      refine .smallest first (List.mem_cons_of_mem _ member) fits ?_
      intro other inside plays
      rcases List.mem_cons.mp inside with rfl | inside
      · obtain ⟨earlier, among, fits', less⟩ := outranked plays
        have below := bytes_le_iff.mp (least earlier among fits')
        exact bytes_le_iff.mpr (le_trans below (le_of_lt (bytes_lt_iff.mp less)))
      · exact least other inside plays
  | kept none =>
      refine .kept (List.forall_mem_cons.mpr ⟨?_, none⟩)
      intro plays
      obtain ⟨earlier, among, fits, -⟩ := outranked plays
      exact none earlier among fits

theorem slot_congr {names' : List String}
    (same : ∀ name, name ∈ names ↔ name ∈ names') (slot : Slot names fit make before after) :
    Slot names' fit make before after := by
  cases slot with
  | smallest first member fits least =>
      exact .smallest first ((same first).mp member) fits fun other inside =>
        least other ((same other).mpr inside)
  | kept none => exact .kept fun name inside => none name ((same name).mpr inside)

theorem slot_outranked {names' : List String} {name : String} {after' : Option Module}
    (more : names'.Perm (name :: names)) (slot : Slot names fit make before after)
    (slot' : Slot names' fit make before after')
    (outranked : fit name → ∃ other ∈ names, fit other ∧ bytes other < bytes name) :
    after' = after := by
  have wider := slot_congr (fun _ => more.mem_iff.symm) (slot_cons slot outranked)
  exact slot_unique slot' wider

end slot

theorem component_settleAll (base dir : String) (d : Document)
    (ascending : names.Pairwise (· ≤ ·)) :
    Slot names (Plays base [.splitComponent, .component]) (fileModule dir) d.component
      (settleAll base dir d names).component := by
  rw [slot_settleAll Document.component _ component_settle]
  exact slot_find? _ _ ascending

theorem renderer_settleAll (base dir : String) (d : Document)
    (ascending : names.Pairwise (· ≤ ·)) :
    Slot names (Plays base [.component]) (fileModule dir) d.renderer
      (settleAll base dir d names).renderer := by
  rw [slot_settleAll Document.renderer _ renderer_settle]
  exact slot_find? _ _ ascending

/-- What a scan makes of the files in a folder. The module of a file is the file in the document's
folder, required by its name up to the last dot. -/
structure Precedence (base : String) (names : List String) (before after : Document) : Prop where
  module : ∀ name ∈ names, (classify base name).isSome → ∃ stem ext : String,
    name = stem ++ "." ++ ext ∧ ext ≠ "" ∧ '.' ∉ ext.toList ∧
    fileModule before.folder name =
      .file (String.ofList (Path.inside before.folder.toList name.toList)) ("./" ++ stem)
  component : Slot names (Plays base [.splitComponent, .component]) (fileModule before.folder)
    before.component after.component
  renderer : Slot names (Plays base [.component]) (fileModule before.folder) before.renderer
    after.renderer
  dependencies : ∃ styles : List String,
    (∀ name, name ∈ styles ↔ name ∈ names ∧ classify base name = some .style) ∧
    styles.Pairwise (fun first second => bytes second < bytes first) ∧
    after.dependencies = before.dependencies ++ styles.map fun name => .path ("./" ++ name)
  marked : after.marked = before.marked
  constants : after.constants = before.constants
  diagnostics : after.diagnostics = before.diagnostics

theorem precedence_settleAll {folder : Folder} {d : Document}
    (readable : folder.list d.folder = .ok names) (distinct : names.Nodup) :
    Precedence base names d (settleAll base d.folder d names) := by
  have ascending := Folder.list_ascending readable distinct
  have facts := scanned_scan (scan_eq base readable)
  constructor
  · exact fun name _ role => fileModule_eq d.folder role
  · exact component_settleAll base d.folder d (Folder.list_le readable)
  · exact renderer_settleAll base d.folder d (Folder.list_le readable)
  · refine ⟨(styleFiles base names).reverse, ?_, ?_, dependencies_settleAll d names⟩
    · intro name
      simp [styleFiles]
    · rw [List.pairwise_reverse]
      apply (ascending.filter _).imp
      intro first second less
      exact bytes_lt_iff.mpr less
  · exact facts.marked
  · exact facts.constants
  · exact facts.diagnostics

theorem settleAll_filter (d : Document) (names : List String) :
    settleAll base dir d (names.filter fun name => (classify base name).isSome) =
      settleAll base dir d names := by
  rw [settleAll, List.foldr_filter]
  congr 1
  funext name d
  cases found : classify base name with
  | none => simp [settle, found]
  | some role => rfl

theorem settleAll_congr {names' : List String} (d : Document) (ascending : names.Pairwise (· < ·))
    (ascending' : names'.Pairwise (· < ·))
    (same : ∀ name, (classify base name).isSome → (name ∈ names ↔ name ∈ names')) :
    settleAll base dir d names = settleAll base dir d names' := by
  rw [← settleAll_filter d names, ← settleAll_filter d names']
  congr 1
  have left := ascending.filter fun name => (classify base name).isSome
  have right := ascending'.filter fun name => (classify base name).isSome
  apply List.Perm.eq_of_pairwise (fun _ _ _ _ less greater => absurd less (lt_asymm greater)) left
    right
  rw [List.perm_ext_iff_of_nodup (left.imp ne_of_lt) (right.imp ne_of_lt)]
  intro name
  simp only [List.mem_filter]
  exact and_congr_left (same name)

/-- A scan of a folder that can be read gives each slot to the smallest name that is fit for it and
adds the style files in descending order. Files without a role do not matter. -/
theorem scan_prefers_smallest (folder : Folder) (base : String) (d : Document)
    (names : List String) (readable : folder.list d.folder = .ok names)
    (distinct : names.Nodup) :
    (∃ after, Sibling.scan folder base d = .ok after ∧ Precedence base names d after) ∧
      ∀ (other : Folder) (names' : List String), other.list d.folder = .ok names' →
        names'.Nodup →
        (∀ name, (classify base name).isSome → (name ∈ names ↔ name ∈ names')) →
        Sibling.scan other base d = Sibling.scan folder base d := by
  constructor
  · exact ⟨_, scan_eq base readable, precedence_settleAll readable distinct⟩
  · intro other names' readable' distinct' same
    rw [scan_eq base readable, scan_eq base readable']
    congr 1
    exact (settleAll_congr d (Folder.list_ascending readable distinct)
      (Folder.list_ascending readable' distinct') same).symm

def crowdedFolder : Folder := Folder.ofPaths
  ["/srv/ui/style.css", "/srv/ui/index.component.js", "/srv/ui/component.ts",
    "/srv/ui/component-browser.js", "/srv/ui/index.style.less", "/srv/ui/other.style.css",
    "/srv/ui/notes.txt"]
  "/srv/site"

def crowdedNames : List String :=
  ["component-browser.js", "component.ts", "index.component.js", "index.style.less", "notes.txt",
    "other.style.css", "style.css"]

def takenPage : Document where
  filename := "../ui/index.marko"
  component := some (.inline "first" "../ui/index.marko" "./index.marko")
  renderer := some (.inline "second" "../ui/index.marko" "./index.marko")
  dependencies := [.path "./before.css"]
  constants := [⟨"first", "\x7b\x7d"⟩]

/-- The split component takes one slot and the shorter of the two components the other; a file
without a role can be added. -/
theorem crowdedFolder_prefers_smallest :
    crowdedFolder.list takenPage.folder = .ok crowdedNames ∧
      (∃ after, Sibling.scan crowdedFolder "index" takenPage = .ok after ∧
        Precedence "index" crowdedNames takenPage after) ∧
      Sibling.scan (crowdedFolder.add "/srv/ui/zebra.txt".toList) "index" takenPage =
        Sibling.scan crowdedFolder "index" takenPage := by
  have folder : takenPage.folder = "../ui" := by decide +kernel
  have readable : crowdedFolder.list takenPage.folder = .ok crowdedNames := by
    have found : crowdedFolder.locate "../ui".toList = .ok ["srv".toList, "ui".toList] := by
      decide +kernel
    rw [folder]
    exact Folder.list_eq found (by decide +kernel) (by decide +kernel)
  have wider : (crowdedFolder.add "/srv/ui/zebra.txt".toList).list takenPage.folder =
      .ok (crowdedNames ++ ["zebra.txt"]) := by
    have found : (crowdedFolder.add "/srv/ui/zebra.txt".toList).locate "../ui".toList =
        .ok ["srv".toList, "ui".toList] := by decide +kernel
    rw [folder]
    exact Folder.list_eq found (by decide +kernel) (by decide +kernel)
  have unrepeated : crowdedFolder.Unrepeated := Folder.unrepeated_ofPaths _ _
  have distinct := Folder.list_nodup unrepeated readable
  obtain ⟨scan, others⟩ := scan_prefers_smallest crowdedFolder "index" takenPage crowdedNames
    readable distinct
  refine ⟨readable, scan, others _ _ wider ?_ ?_⟩
  · exact Folder.list_nodup (Folder.unrepeated_add unrepeated _) wider
  · intro name role
    have stranger : classify "index" "zebra.txt" = none := by decide +kernel
    rw [List.mem_append, List.mem_singleton]
    constructor
    · exact Or.inl
    · rintro (member | rfl)
      · exact member
      · rw [stranger] at role
        cases role

end Sibling

end TemplateWiring
