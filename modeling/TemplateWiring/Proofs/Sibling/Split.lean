import TemplateWiring.Proofs.Sibling.Name
import TemplateWiring.Proofs.Sibling.Precedence

/-! Components in two files. Split components and components go for one slot, and nothing but the order
of their names decides: a hyphen comes before a dot, so with one lead the split component gets it. -/

namespace TemplateWiring.Sibling

open Text

variable {base lead : String}

theorem split_lt_component (lead ext other : String) :
    lead ++ "component-browser." ++ ext < lead ++ "component." ++ other := by
  have split : (lead ++ "component-browser." ++ ext).toList =
      lead.toList ++ ("component".toList ++ '-' :: ("browser.".toList ++ ext.toList)) := by simp
  have whole : (lead ++ "component." ++ other).toList =
      lead.toList ++ ("component".toList ++ '.' :: other.toList) := by simp
  rw [String.lt_iff_toList_lt, split, whole]
  apply List.append_left_lt
  apply List.append_left_lt
  exact List.cons_lt_cons_iff.mpr (.inl (by decide))

theorem split_not_style (before : Lead base lead) (ext : String) :
    classify base (lead ++ "component-browser." ++ ext) ≠ some .style := by
  rw [Ne, classify_eq_some, ← spelled_iff]
  rintro ⟨other, ext', before', -, same⟩
  rw [← String.toList_inj] at same
  rcases before with rfl | ⟨rfl, rfl⟩
  · rcases before' with rfl | ⟨rfl, rfl⟩ <;> simp [Role.word] at same
  · rcases before' with rfl | ⟨-, rfl⟩ <;> simp [Role.word] at same

theorem split_plays (before : Lead base lead) {ext : String}
    (role : (classify base (lead ++ "component-browser." ++ ext)).isSome) :
    Plays base [.splitComponent, .component] (lead ++ "component-browser." ++ ext) := by
  obtain ⟨role, found⟩ := Option.isSome_iff_exists.mp role
  cases role with
  | style => exact absurd found (split_not_style before ext)
  | splitComponent => exact ⟨.splitComponent, by simp, found⟩
  | component => exact ⟨.component, by simp, found⟩

/-- Where no file goes without the base name, every split component comes before every component. -/
theorem split_lt_of_roles (own : base ≠ "index") {split whole : String}
    (first : classify base split = some .splitComponent)
    (second : classify base whole = some .component) : split < whole := by
  rw [classify_eq_some, ← spelled_iff] at first second
  obtain ⟨lead, ext, rfl | ⟨entry, -⟩, -, rfl⟩ := first
  · obtain ⟨lead, ext', rfl | ⟨entry, -⟩, -, rfl⟩ := second
    · have less := split_lt_component (base ++ ".") ext ext'
      simpa [Role.word, String.append_assoc] using less
    · exact absurd entry own
  · exact absurd entry own

/-- Next to a split component the slot goes to no component with the same lead, whether or not there is
one. Where files must have the base name, a split component gets the slot whenever there is one, and
the renderer is still the first of the components. -/
theorem split_keeps_component (folder : Folder) (base : String) (d : Document)
    (names : List String) (readable : folder.list d.folder = .ok names) :
    ∃ after, Sibling.scan folder base d = .ok after ∧
      (∀ lead, Lead base lead →
        (∃ ext, lead ++ "component-browser." ++ ext ∈ names ∧
          (classify base (lead ++ "component-browser." ++ ext)).isSome) →
        ∀ ext, after.component ≠ some (fileModule d.folder (lead ++ "component." ++ ext))) ∧
      (base ≠ "index" → (∃ name ∈ names, classify base name = some .splitComponent) →
        ∃ name ∈ names, classify base name = some .splitComponent ∧
          (∀ other ∈ names, classify base other = some .splitComponent → bytes name ≤ bytes other) ∧
          after.component = some (fileModule d.folder name)) ∧
      Slot names (Plays base [.component]) (fileModule d.folder) d.renderer after.renderer := by
  have ascending := Folder.list_le readable
  have slot := component_settleAll base d.folder d ascending
  refine ⟨_, scan_eq base readable, ?_, ?_, renderer_settleAll base d.folder d ascending⟩
  · rintro lead before ⟨ext, member, role⟩ other same
    obtain ⟨name, -, -, least, taken⟩ := slot_taken slot member (split_plays before role)
    obtain rfl := fileModule_injective (Option.some.inj (taken.symm.trans same))
    have first := bytes_le_iff.mp (least _ member (split_plays before role))
    exact absurd (split_lt_component lead ext other) (not_lt.mpr first)
  · rintro own ⟨split, member, role⟩
    have plays : Plays base [.splitComponent, .component] split := ⟨.splitComponent, by simp, role⟩
    obtain ⟨name, inside, ⟨role', listed, found⟩, least, taken⟩ := slot_taken slot member plays
    have splits : classify base name = some .splitComponent := by
      rcases List.mem_pair.mp listed with rfl | rfl
      · exact found
      · -- A component with the smallest name would come before the split component.
        have first := bytes_le_iff.mp (least split member plays)
        exact absurd (split_lt_of_roles own role found) (not_lt.mpr first)
    refine ⟨name, inside, splits, ?_, taken⟩
    intro other member' role'
    exact least other member' ⟨.splitComponent, by simp, role'⟩

def pairedFolder : Folder := Folder.ofPaths
  ["/srv/ui/tab.component.js", "/srv/ui/tab.component-browser.ts", "/srv/ui/component.js",
    "/srv/ui/tab.marko"]

def pairedNames : List String :=
  ["component.js", "tab.component-browser.ts", "tab.component.js", "tab.marko"]

def pairedPage : Document where
  filename := "/srv/ui/tab.marko"
  component := some (.inline "first" "/srv/ui/tab.marko" "./tab.marko")

theorem pairedFolder_keeps_component :
    pairedFolder.list pairedPage.folder = .ok pairedNames ∧ ∃ after,
      Sibling.scan pairedFolder "tab" pairedPage = .ok after ∧
      (∀ ext, after.component ≠ some (fileModule "/srv/ui" ("tab." ++ "component." ++ ext))) ∧
      after.component = some (fileModule "/srv/ui" "tab.component-browser.ts") ∧
      Slot pairedNames (Plays "tab" [.component]) (fileModule "/srv/ui") none after.renderer := by
  have folder : pairedPage.folder = "/srv/ui" := by decide +kernel
  have readable : pairedFolder.list pairedPage.folder = .ok pairedNames := by
    have found : pairedFolder.locate "/srv/ui".toList = .ok ["srv".toList, "ui".toList] := by
      decide +kernel
    rw [folder]
    exact Folder.list_eq found (by decide +kernel) (by decide +kernel)
  have role : classify "tab" "tab.component-browser.ts" = some .splitComponent := by decide +kernel
  have only : ∀ name ∈ pairedNames, classify "tab" name = some .splitComponent →
      name = "tab.component-browser.ts" := by decide +kernel
  obtain ⟨after, scan, apart, split, renderer⟩ :=
    split_keeps_component pairedFolder "tab" pairedPage pairedNames readable
  obtain ⟨name, member, splits, -, taken⟩ := split (by decide) ⟨_, by decide +kernel, role⟩
  rw [only name member splits] at taken
  rw [folder] at apart taken renderer
  refine ⟨readable, after, scan, ?_, taken, renderer⟩
  exact apart "tab." (.inl rfl) ⟨"ts", by decide +kernel, by decide +kernel⟩

end TemplateWiring.Sibling
