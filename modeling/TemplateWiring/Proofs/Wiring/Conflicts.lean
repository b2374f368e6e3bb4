import TemplateWiring.Proofs.Roots.Reports
import TemplateWiring.Proofs.Sibling.Name
import TemplateWiring.Proofs.Sibling.Precedence
import TemplateWiring.Proofs.Wiring.Foretold
import TemplateWiring.Proofs.Wiring.Growth

/-! Classes that find a renderer. The renderer of a document is a component beside it or, where
there is none, what the first class has become; every other class is in conflict with it. -/

namespace TemplateWiring

def Diagnostic.isConflict (x : Diagnostic) : Bool := x.code == Code.inlineAndExternal

def Document.conflicts (d : Document) : List Diagnostic := d.diagnostics.filter (·.isConflict)

namespace Roots

open TemplateWiring.Tree

/-- The classes that a search comes to and that become objects. None behind the class that ends the
search is come to. -/
def convertible (o : Options) (t : Tree) (ids : List Nat) : List Nat :=
  (ids.takeWhile fun id => (fatal? o (t.node id)).isNone).filter fun id =>
    (behavior? o (t.node id)).isSome

def conflictReport (filename : String) (m : Module) (t : Tree) (id : Nat) : Diagnostic :=
  .atNode Code.inlineAndExternal (Inline.conflictText m) filename id (t.node id).pos

section cons

variable {o : Options} {t : Tree} {id : Nat} (rest : List Nat)

theorem convertible_ends {failure : Failure} (fatal : fatal? o (t.node id) = some failure) :
    convertible o t (id :: rest) = [] := by
  simp [convertible, fatal]

theorem convertible_skip (sound : fatal? o (t.node id) = none)
    (object : behavior? o (t.node id) = none) :
    convertible o t (id :: rest) = convertible o t rest := by
  simp [convertible, sound, object]

theorem convertible_take {text : String} (sound : fatal? o (t.node id) = none)
    (object : behavior? o (t.node id) = some text) :
    convertible o t (id :: rest) = id :: convertible o t rest := by
  simp [convertible, sound, object]

end cons

/-- What is in conflict is a class that becomes an object, once a renderer is known. -/
theorem conflict_of_complaint (d : Document) (t : Tree) (id : Nat) :
    (complaint? d (t.node id) id).toList.filter (·.isConflict) =
      if (behavior? d.options (t.node id)).isSome then
        (d.renderer.map fun m => conflictReport d.filename m t id).toList
      else [] := by
  have other_code (code message : String) (pos : UInt32)
      (code_ne : (code == Code.inlineAndExternal) = false) :
      [Diagnostic.atNode code message d.filename id pos].filter (·.isConflict) = [] ∧
        [Diagnostic.atPos code message d.filename pos].filter (·.isConflict) = [] :=
    ⟨List.filter_cons_of_neg (Bool.not_eq_true _ ▸ code_ne),
      List.filter_cons_of_neg (Bool.not_eq_true _ ▸ code_ne)⟩
  by_cases class_ : (t.node id).kind = .other ∧ (t.node id).isTag "class" = true
  · obtain ⟨kind, tag⟩ := class_
    rw [complaint?_of_class kind tag, classComplaint?, behavior?_of_class kind tag rfl]
    rcases Behavior.ofClass ((t.node id).opening.getD "") d.options.createHookName with
      (⟨complaint, offset⟩ | _ | failure) | object
    · cases offset with
      | none => exact (other_code _ _ _ (by decide)).1
      | some offset => exact (other_code _ _ _ (by decide)).2
    · exact (other_code _ _ _ (by decide)).1
    · rfl
    · cases slot : d.renderer <;> simp only [objectComplaint?, slot] <;> rfl
  · have none : behavior? d.options (t.node id) = none := by
      rw [behavior?, if_neg (by simpa using class_)]
    rw [none, complaint?]
    split
    · rw [styleComplaint?]
      split
      · exact (other_code _ _ _ (by decide)).1
      · rfl
      · rfl
    · rw [if_neg (by simpa using class_)]
      rfl

inductive Conflicts (t : Tree) (d : Document) (ids : List Nat) (after : Document) : Prop
  | known (m : Module) (renderer : d.renderer = some m) (kept : after.renderer = some m)
      (reports : after.conflicts =
        d.conflicts ++ (convertible d.options t ids).map (conflictReport d.filename m t))
  | clear (vacant : d.renderer = none) (bare : convertible d.options t ids = [])
      (kept : after.renderer = none) (reports : after.conflicts = d.conflicts)
  | installed (constant : String) (first : Nat) (later : List Nat) (vacant : d.renderer = none)
      (classes : convertible d.options t ids = first :: later)
      (renderer : after.renderer = some (Inline.module d constant))
      (reports : after.conflicts =
        d.conflicts ++ later.map (conflictReport d.filename (Inline.module d constant) t))

theorem conflicts_step {s : Search} {t : Tree} {id : Nat} {v : Visit Search Failure}
    (step : Step s (t.node id) id v) : v.state.document.conflicts = s.document.conflicts ++
      if (behavior? s.document.options (t.node id)).isSome then
        (s.document.renderer.map fun m => conflictReport s.document.filename m t id).toList
      else [] := by
  rw [Document.conflicts, diagnostics_step step, List.filter_append, conflict_of_complaint]
  rfl

theorem Conflicts.none_come (t : Tree) (d : Document) {ids : List Nat}
    (none : convertible d.options t ids = []) : Conflicts t d ids d := by
  cases slot : d.renderer with
  | some m => exact .known m slot slot (by rw [none, List.map_nil, List.append_nil])
  | none => exact .clear slot none slot rfl

theorem Conflicts.ends {s : Search} {t : Tree} {id : Nat} {v : Visit Search Failure}
    (rest : List Nat) (step : Step s (t.node id) id v) {failure : Failure}
    (verdict : v.verdict = .fail failure) :
    Conflicts t s.document (id :: rest) v.state.document := by
  have fatal := verdict_step step
  rw [verdict] at fatal
  cases step with
  | fatal => exact .none_come t s.document (convertible_ends rest fatal)
  | _ => cases verdict

theorem Conflicts.congr {t : Tree} {d later after : Document} {ids rest : List Nat}
    (filename : later.filename = d.filename) (renderer : later.renderer = d.renderer)
    (reports : later.conflicts = d.conflicts)
    (classes : convertible later.options t rest = convertible d.options t ids)
    (held : Conflicts t later rest after) : Conflicts t d ids after := by
  have own (constant : String) : Inline.module later constant = Inline.module d constant := by
    simp only [Inline.module, Document.basename, filename]
  cases held with
  | known m known kept found =>
      rw [reports, classes, filename] at found
      exact .known m (renderer ▸ known) kept found
  | clear vacant bare kept found =>
      exact .clear (renderer ▸ vacant) (classes ▸ bare) kept (found.trans reports)
  | installed constant first others vacant listed installed found =>
      rw [reports, filename, own] at found
      exact .installed constant first others (renderer ▸ vacant) (classes ▸ listed)
        (own constant ▸ installed) found

theorem renderer_of_bare {s : Search} {n : Node} {id : Nat} {v : Visit Search Failure}
    (yield : Yield s n id v) (bare : behavior? s.document.options n = none) :
    v.state.document.renderer = s.document.renderer := by
  cases yield with
  | nothing _ _ _ _ _ document => rw [document]
  | style _ _ _ _ _ document =>
      rw [document]
      rfl
  | object text _ object =>
      rw [bare] at object
      cases object

theorem install_of_vacant {s : Search} {n : Node} {id : Nat} {v : Visit Search Failure}
    {text : String} (yield : Yield s n id v)
    (object : behavior? s.document.options n = some text) (vacant : s.document.renderer = none) :
    v.state.document = Inline.install s.document text := by
  cases yield with
  | nothing _ _ _ none =>
      rw [none vacant] at object
      cases object
  | style _ _ _ none =>
      rw [none] at object
      cases object
  | object other _ found _ _ document =>
      rw [found] at object
      cases object
      exact document

theorem Conflicts.cons {s : Search} {t : Tree} {id : Nat} {v : Visit Search Failure}
    {rest : List Nat} {after : Document} (step : Step s (t.node id) id v)
    (sound : fatal? s.document.options (t.node id) = none)
    (later : Conflicts t v.state.document rest after) :
    Conflicts t s.document (id :: rest) after := by
  have yield := step_yield step
  have reports := conflicts_step step
  obtain ⟨filename, options, follows⟩ := follows_yield yield
  cases object : behavior? s.document.options (t.node id) with
  | none =>
      rw [object] at reports
      refine later.congr filename (renderer_of_bare yield object)
        (reports.trans (List.append_nil _)) ?_
      rw [options, convertible_skip rest sound object]
  | some text =>
      have classes := convertible_take rest sound object
      rw [object] at reports
      cases slot : s.document.renderer with
      | some m =>
          have kept := follows m slot
          rw [slot] at reports
          cases later with
          | known other known last found =>
              rw [kept] at known
              cases known
              refine .known m slot last ?_
              rw [found, reports, filename, options, classes, List.append_assoc]
              rfl
          | clear vacant => simp [kept] at vacant
          | installed _ _ _ vacant => simp [kept] at vacant
      | none =>
          have document := install_of_vacant yield object slot
          have renderer : v.state.document.renderer = some (Inline.module s.document
              (s.document.addConstant s.document.options.componentConstantName text).2) := by
            rw [document]
            rfl
          rw [slot] at reports
          -- From here on a renderer is known, and all that follows is in conflict with it.
          cases later with
          | known other known last found =>
              rw [renderer] at known
              cases known
              refine .installed _ id _ slot classes last ?_
              rw [found, reports, filename, options]
              exact congrArg (· ++ _) (List.append_nil _)
          | clear vacant => simp [renderer] at vacant
          | installed _ _ _ vacant => simp [renderer] at vacant

/-- A search that starts with a renderer keeps it, and every class is in conflict with it; in a
search that starts without one, every class but the first is in conflict with that one. -/
theorem sweep_conflicts (t : Tree) (ids : List Nat) (s : Search) (gone : List Nat) :
    Conflicts t s.document ids (Walk.sweep visit t s gone ids).state.document := by
  induction ids generalizing s gone with
  | nil => exact .none_come t s.document rfl
  | cons id rest ih =>
      have step := visit_step s t id
      have fatal := verdict_step step
      rw [Walk.sweep]
      cases verdict : (visit s t id).verdict with
      | fail failure => exact .ends rest step verdict
      | prune =>
          rw [verdict] at fatal
          exact .cons step fatal (ih _ _)
      | descend =>
          rw [verdict] at fatal
          exact .cons step fatal (ih _ _)

end Roots

namespace Sibling

def Beside (folder : Folder) (d : Document) (base name : String) : Prop :=
  ∃ names, folder.list d.folder = .ok names ∧ name ∈ names ∧ classify base name = some .component

theorem renderer_scan {folder : Folder} {base : String} {d scanned : Document}
    (vacant : d.renderer = none) (scan : Sibling.scan folder base d = .ok scanned) :
    (∃ name, Beside folder d base name ∧
        scanned.renderer = some (fileModule d.folder name)) ∨
      (∀ name, ¬ Beside folder d base name) ∧ scanned.renderer = none := by
  obtain ⟨names, listed, settled⟩ := settled_of_scan scan
  rw [settled, slot_settleAll Document.renderer _ renderer_settle, vacant, Option.or_none]
  cases found : names.find? (Plays base [.component] ·) with
  | some name =>
      have plays : Plays base [.component] name := by simpa using List.find?_some found
      obtain ⟨role, single, role_of⟩ := plays
      rw [List.mem_singleton.mp single] at role_of
      exact .inl ⟨name, ⟨names, listed, List.mem_of_find?_eq_some found, role_of⟩, rfl⟩
  | none =>
      refine .inr ⟨?_, rfl⟩
      rintro name ⟨others, listed', member, role_of⟩
      rw [listed, Except.ok.injEq] at listed'
      subst listed'
      have idle := List.find?_eq_none.mp found name member
      exact idle (by simpa [Plays] using role_of)

/-- A component beside a document is another file than the document. -/
theorem apart_of_beside {folder : Folder} {d : Document} {base name : String}
    (named : baseName? d.filename d.options.templateExtension = some base)
    (beside : Beside folder d base name) : name ≠ d.basename := by
  obtain ⟨own, last, stem⟩ := baseName?_eq_some named
  obtain ⟨_, _, _, role⟩ := beside
  rintro rfl
  rw [classify_eq_some, Document.basename, last] at role
  rw [String.toList_ofList, ← stem] at role
  exact not_named_self .component rfl role

theorem displayName_module {d : Document} {base : String} (constant : String)
    (named : baseName? d.filename d.options.templateExtension = some base) :
    (Inline.module d constant).displayName = d.basename := by
  obtain ⟨own, last, -⟩ := baseName?_eq_some named
  simp only [Inline.module, Module.displayName, Module.filename, Document.basename, last]

end Sibling

namespace Wiring

open TemplateWiring.Tree Sibling

/-- What a run reports as conflicts: nothing where it does not search; each class that it converts
where there is a component beside the document, with that component; otherwise each but the first,
with the first, under the document's own name. -/
inductive Disputes (folder : Folder) (t : Tree) (d : Document) (w : Wiring) : Prop
  | unsearched
      (unread : ∀ base, baseName? d.filename d.options.templateExtension = some base →
        ∀ names, folder.list d.folder ≠ .ok names)
      (reports : w.document.conflicts = [])
  | external (base name : String)
      (named : baseName? d.filename d.options.templateExtension = some base)
      (beside : Beside folder d base name) (apart : name ≠ d.basename)
      (renderer : w.document.renderer = some (fileModule d.folder name))
      (reports : w.document.conflicts = (Roots.convertible d.options t t.frontier).map
        (Roots.conflictReport d.filename (fileModule d.folder name) t))
  | clear (bare : Roots.convertible d.options t t.frontier = [])
      (reports : w.document.conflicts = [])
  | internal (base constant : String) (names : List String) (first : Nat) (later : List Nat)
      (named : baseName? d.filename d.options.templateExtension = some base)
      (listed : folder.list d.folder = .ok names) (alone : ∀ name, ¬ Beside folder d base name)
      (classes : Roots.convertible d.options t t.frontier = first :: later)
      (renderer : w.document.renderer = some (Inline.module d constant))
      (called : (Inline.module d constant).displayName = d.basename)
      (reports : w.document.conflicts =
        later.map (Roots.conflictReport d.filename (Inline.module d constant) t))

def ConflictsExternal (folder : Folder) (d : Document) (w : Wiring) : Prop :=
  ∀ x ∈ w.document.diagnostics, x.code = Code.inlineAndExternal →
    ∃ base name, baseName? d.filename d.options.templateExtension = some base ∧
      Beside folder d base name ∧ w.document.renderer = some (fileModule d.folder name)

/-- Several classes that are converted, and no component beside the document. -/
def SeveralInside (folder : Folder) (t : Tree) (d : Document) : Prop :=
  ∃ base names, baseName? d.filename d.options.templateExtension = some base ∧
    folder.list d.folder = .ok names ∧ (∀ name, ¬ Beside folder d base name) ∧
    2 ≤ (Roots.convertible d.options t t.frontier).length

section run

variable {folder : Folder} {t : Tree} {d : Document} {w : Wiring}

theorem Disputes.external_iff (disputes : Disputes folder t d w) :
    ConflictsExternal folder d w ↔ ¬ SeveralInside folder t d := by
  have silent (reports : w.document.conflicts = []) : ConflictsExternal folder d w := by
    intro x member code
    have conflict : x ∈ w.document.conflicts :=
      List.mem_filter.mpr ⟨member, by simp [Diagnostic.isConflict, code]⟩
    rw [reports] at conflict
    cases conflict
  cases disputes with
  | unsearched unread reports =>
      refine iff_of_true (silent reports) ?_
      rintro ⟨base, names, named, listed, -⟩
      exact unread base named names listed
  | external base name named beside _ renderer =>
      refine iff_of_true (fun _ _ _ => ⟨base, name, named, beside, renderer⟩) ?_
      rintro ⟨other, names, named', -, alone, -⟩
      rw [named, Option.some.injEq] at named'
      exact alone name (named' ▸ beside)
  | clear bare reports =>
      refine iff_of_true (silent reports) ?_
      rintro ⟨base, names, -, -, -, several⟩
      simp [bare] at several
  | internal base constant names first later named listed alone classes renderer _ reports =>
      cases later with
      | nil =>
          refine iff_of_true (silent reports) ?_
          rintro ⟨_, _, -, -, -, several⟩
          simp [classes] at several
      | cons second rest =>
          have several : SeveralInside folder t d :=
            ⟨base, names, named, listed, alone, by simp [classes]⟩
          refine iff_of_false ?_ (not_not_intro several)
          intro external
          have reported : Roots.conflictReport d.filename (Inline.module d constant) t second ∈
              w.document.conflicts := by
            rw [reports]
            exact List.mem_cons_self
          obtain ⟨_, _, -, -, file⟩ := external _ (List.mem_filter.mp reported).1 rfl
          rw [renderer] at file
          cases file

theorem disputes_of_search {base : String} {scanned : Document} (wf : WellFormed t)
    (vacant : d.renderer = none) (quiet : d.conflicts = [])
    (named : baseName? d.filename d.options.templateExtension = some base)
    (scan : Sibling.scan folder base d = .ok scanned)
    (conflicts : w.document.conflicts = (Roots.collect t scanned).state.document.conflicts)
    (renderer : w.document.renderer = (Roots.collect t scanned).state.document.renderer) :
    Disputes folder t d w := by
  have facts := Sibling.scanned_scan scan
  have quiet' : scanned.conflicts = [] := by
    rw [Document.conflicts, facts.diagnostics]
    exact quiet
  have own (constant : String) : Inline.module scanned constant = Inline.module d constant := by
    simp only [Inline.module, Document.basename, facts.filename]
  have found := Roots.sweep_conflicts t t.frontier { document := scanned } []
  rw [Roots.collect_eq_sweep wf] at conflicts renderer
  dsimp only [Walk.Swept.walk] at conflicts renderer found
  rcases renderer_scan vacant scan with ⟨name, beside, slot⟩ | ⟨alone, slot⟩
  · cases found with
    | known m known kept reports =>
        rw [slot] at known
        cases known
        refine .external base name named beside (apart_of_beside named beside)
          (renderer.trans kept) ?_
        rw [conflicts, reports, quiet', facts.filename, facts.options, List.nil_append]
    | clear vacant => simp [slot] at vacant
    | installed _ _ _ vacant => simp [slot] at vacant
  · cases found with
    | known m known => simp [slot] at known
    | clear _ bare _ reports =>
        rw [facts.options] at bare
        exact .clear bare (conflicts.trans (reports.trans quiet'))
    | installed constant first later _ classes installed reports =>
        rw [facts.options] at classes
        rw [own] at installed reports
        obtain ⟨names, listed, -⟩ := settled_of_scan scan
        refine .internal base constant names first later named listed alone classes
          (renderer.trans installed) (displayName_module constant named) ?_
        rw [conflicts, reports, quiet', facts.filename, List.nil_append]

end run

/-- The conflicts that a run reports of a fresh document. They are all with a component beside it
unless there is none and the search comes to several classes that it can convert. -/
theorem conflicts_external_unless (folder : Folder) (t : Tree) (filename : String) (o : Options)
    (built : Reachable t) :
    let d : Document := { filename := filename, options := o }
    let w := run folder t d
    Disputes folder t d w ∧ (ConflictsExternal folder d w ↔ ¬ SeveralInside folder t d) := by
  intro d w
  have wf := wellFormed_of_reachable built
  have disputes : Disputes folder t d w := by
    have course : Course folder t d w := run_course folder t d
    generalize w = w at course
    cases course with
    | skipped nameless =>
        refine .unsearched ?_ rfl
        intro base named
        rw [nameless] at named
        cases named
    | unread base failure named scan =>
        refine .unsearched ?_ rfl
        intro other _ names listed
        rw [scan_eq base listed] at scan
        cases scan
    | stopped base scanned failure named scan =>
        exact disputes_of_search wf rfl rfl named scan rfl rfl
    | completed base scanned tree document decision named scan ok ruling =>
        refine disputes_of_search wf rfl rfl named scan ?_ ?_
        · exact congrArg (List.filter (·.isConflict)) (Binding.diagnostics_ruling ruling)
        · exact congrArg (·.2.1) (kept_ruling ruling).1
  exact ⟨disputes, disputes.external_iff⟩

def rivalPage : Template :=
  .root [
    .other (some "class") (some "class {}") [] 0,
    .container [.other (some "class") (some "class { onInput() {} }") [] 17] 16]

theorem rivalPage_beside_component :
    let folder := Folder.ofPaths ["component.js"]
    let d : Document := { filename := "index.marko" }
    let w := run folder (ofTemplate rivalPage) d
    ConflictsExternal folder d w ∧ ¬ SeveralInside folder (ofTemplate rivalPage) d ∧
      w.document.conflicts.map (·.node) = [some 1, some 3] ∧
      w.document.renderer = some (.file "./component.js" "./component") := by
  intro folder d w
  have built : Reachable (ofTemplate rivalPage) := reachable_ofTemplate rivalPage
  obtain ⟨disputes, external_iff⟩ :=
    conflicts_external_unless folder (ofTemplate rivalPage) "index.marko" {} built
  have frontier : 0 :: (Template.frontierAll 1 rivalPage.tops).map (·.1) = [0, 1, 2, 3] := by
    decide +kernel
  have ran := run_beside_component rivalPage frontier (by decide +kernel)
  have held : w.document.conflicts.map (·.node) = [some 1, some 3] ∧
      w.document.renderer = some (.file "./component.js" "./component") := by
    change (run folder (ofTemplate rivalPage) d).document.conflicts.map (·.node) = _ ∧
      (run folder (ofTemplate rivalPage) d).document.renderer = _
    rw [ran]
    decide +kernel
  have beside : Beside folder d "index" "component.js" :=
    ⟨["component.js"], by decide +kernel, List.mem_singleton_self _, by decide +kernel⟩
  have named : baseName? "index.marko" "js" = some "index" := by decide +kernel
  have several : ¬ SeveralInside folder (ofTemplate rivalPage) d := by
    rintro ⟨base, names, named', -, alone, -⟩
    cases named.symm.trans named'
    exact alone _ beside
  exact ⟨external_iff.mpr several, several, held⟩

/-- With nothing beside the document, the second class is in conflict with the first, under the name
of the document. -/
theorem rivalPage_conflicts_inside :
    let folder := Folder.ofPaths []
    let d : Document := { filename := "index.marko" }
    let w := run folder (ofTemplate rivalPage) d
    let inside : Module := .inline "marko_component" "index.marko" "./index.marko"
    let report : Diagnostic :=
      .atNode Code.inlineAndExternal (Inline.conflictText inside) "index.marko" 3 17
    ¬ ConflictsExternal folder d w ∧ w.document.renderer = some inside ∧
      w.document.diagnostics = [report] ∧ inside.displayName = "index.marko" := by
  intro folder d w inside report
  have wf := wellFormed_of_reachable (reachable_ofTemplate rivalPage)
  have named : baseName? "index.marko" "js" = some "index" := by decide +kernel
  have scan : Sibling.scan folder "index" d = .ok d := by decide +kernel
  have frontier : (ofTemplate rivalPage).frontier = [0, 1, 2, 3] :=
    (frontier_ofTemplate rivalPage).trans (by decide +kernel)
  have ran : run folder (ofTemplate rivalPage) d = _ :=
    run_of_sweep wf named scan frontier (by decide +kernel)
  have held : w.document.renderer = some inside ∧ w.document.diagnostics = [report] := by
    change (run folder (ofTemplate rivalPage) d).document.renderer = _ ∧
      (run folder (ofTemplate rivalPage) d).document.diagnostics = _
    rw [ran]
    decide +kernel
  obtain ⟨renderer, reported⟩ := held
  refine ⟨?_, renderer, reported, by decide +kernel⟩
  intro external
  obtain ⟨_, name, -, -, file⟩ := external report (reported ▸ List.mem_singleton_self _) rfl
  have same : inside = fileModule d.folder name := Option.some.inj (renderer.symm.trans file)
  cases congrArg Module.isInline same

end Wiring

end TemplateWiring
