import TemplateWiring.Sibling.Scan

namespace TemplateWiring.Sibling

/-- All but the slots stays, and only files are added to the dependencies. -/
structure Scanned (before after : Document) : Prop where
  filename : after.filename = before.filename
  options : after.options = before.options
  marked : after.marked = before.marked
  constants : after.constants = before.constants
  diagnostics : after.diagnostics = before.diagnostics
  dependencies : ∃ files : List String,
    after.dependencies = before.dependencies ++ files.map .path

variable {d first second third : Document}

theorem scanned_slots (d : Document) (component renderer : Option Module) :
    Scanned d { d with component := component, renderer := renderer } :=
  ⟨rfl, rfl, rfl, rfl, rfl, [], (List.append_nil _).symm⟩

theorem Scanned.refl (d : Document) : Scanned d d := scanned_slots d d.component d.renderer

theorem Scanned.trans (left : Scanned first second) (right : Scanned second third) :
    Scanned first third := by
  obtain ⟨earlier, left_files⟩ := left.dependencies
  obtain ⟨later, right_files⟩ := right.dependencies
  constructor
  · exact right.filename.trans left.filename
  · exact right.options.trans left.options
  · exact right.marked.trans left.marked
  · exact right.constants.trans left.constants
  · exact right.diagnostics.trans left.diagnostics
  · refine ⟨earlier ++ later, ?_⟩
    rw [right_files, left_files, List.map_append, List.append_assoc]

theorem Scanned.ext {d first second : Document} (left : Scanned d first) (right : Scanned d second)
    (component : first.component = second.component) (renderer : first.renderer = second.renderer)
    (dependencies : first.dependencies = second.dependencies) : first = second := by
  cases first
  cases second
  rw [Document.mk.injEq]
  exact ⟨left.filename.trans right.filename.symm, left.options.trans right.options.symm, component,
    renderer, left.marked.trans right.marked.symm, dependencies,
    left.constants.trans right.constants.symm, left.diagnostics.trans right.diagnostics.symm⟩

theorem scanned_setComponent {m : Module} {after : Document}
    (set : d.setComponent m = .ok after) : Scanned d after := by
  rw [Document.setComponent] at set
  split at set
  · split at set
    · cases set
    · cases set
      exact scanned_slots d (some m) d.renderer
  · cases set
    exact scanned_slots d (some m) d.renderer

theorem scanned_setRenderer (d : Document) (m : Module) : Scanned d (d.setRenderer m) :=
  scanned_slots d d.component (some m)

theorem scanned_adopt {base dir name : String} {after : Document}
    (adopted : adopt base dir d name = .ok after) : Scanned d after := by
  unfold adopt at adopted
  split at adopted
  · cases adopted
    exact Scanned.refl d
  · cases adopted
    exact ⟨rfl, rfl, rfl, rfl, rfl, ["./" ++ name], rfl⟩
  · exact scanned_setComponent adopted
  · split at adopted
    next filled set =>
      cases adopted
      exact (scanned_setComponent set).trans (scanned_setRenderer filled _)
    next => cases adopted

theorem scanned_adoptAll {base dir : String} (names : List String) {after : Document}
    (adopted : adoptAll base dir d names = .ok after) : Scanned d after := by
  induction names generalizing d with
  | nil =>
      cases adopted
      exact Scanned.refl _
  | cons name rest ih =>
      rw [adoptAll] at adopted
      split at adopted
      next registered found => exact (scanned_adopt found).trans (ih adopted)
      next => cases adopted

theorem scanned_scan {folder : Folder} {base : String} {after : Document}
    (scan : Sibling.scan folder base d = .ok after) : Scanned d after := by
  unfold Sibling.scan at scan
  split at scan
  · cases scan
  · exact scanned_adoptAll _ scan

end TemplateWiring.Sibling
