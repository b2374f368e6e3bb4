import Mathlib.Data.List.Basic
import TemplateWiring.Proofs.Roots.Collection
import TemplateWiring.Proofs.Tree.Grafting
import TemplateWiring.Wiring

namespace TemplateWiring

namespace Binding

inductive Ruling (t : Tree) (d : Document) (r : Roots) : Tree × Document × Decision → Prop
  | explicit (own : r.legacyBind = true) : Ruling t d r (t, d, .legacyExplicitBind)
  | unbound (own : r.legacyBind = false) (bare : d.isBound = false) :
      Ruling t d r (t, d, .noBoundComponent)
  | rootless (own : r.legacyBind = false) (ready : d.isBound = true) (none : r.nodes = []) :
      Ruling t d r (t, d, .noRootNodes)
  | ambiguous (own : r.legacyBind = false) (ready : d.isBound = true)
      (several : 1 < r.nodes.length) (named : 0 < r.idCount) : Ruling t d r (t, d, .ambiguousIds)
  | bound (own : r.legacyBind = false) (ready : d.isBound = true) (some : r.nodes ≠ [])
      (clear : r.nodes.length ≤ 1 ∨ r.idCount = 0) (keyed : Tree) (keys : List String)
      (marked : markAll d.options (decide (1 < r.nodes.length)) t 0 r.nodes = (keyed, keys)) :
      Ruling t d r (keyed, d.markBound, .bound r.nodes.length keys)

theorem bind_ruling (t : Tree) (d : Document) (r : Roots) : Ruling t d r (bind t d r) := by
  rw [bind]
  cases own : r.legacyBind with
  | true => exact .explicit own
  | false =>
      cases ready : d.isBound with
      | false => exact .unbound own ready
      | true =>
          by_cases none : r.nodes = []
          · simp only [none, Bool.false_eq_true, if_false, Bool.not_true, if_true]
            exact .rootless own ready none
          · simp only [none, Bool.false_eq_true, if_false, Bool.not_true]
            by_cases both : 1 < r.nodes.length ∧ 0 < r.idCount
            · rw [if_pos (by simpa using both)]
              exact .ambiguous own ready both.1 both.2
            · rw [if_neg (by simpa using both)]
              exact .bound own ready none (by omega) _ _ rfl

end Binding

namespace Wiring

inductive Course (folder : Folder) (t : Tree) (d : Document) : Wiring → Prop
  | skipped (nameless : Sibling.baseName? d.filename d.options.templateExtension = none) :
      Course folder t d ⟨t, d, .ok .skipped⟩
  | unread (base : String) (failure : Failure)
      (named : Sibling.baseName? d.filename d.options.templateExtension = some base)
      (scan : Sibling.scan folder base d = .error failure) :
      Course folder t d ⟨t, d, .error failure⟩
  | stopped (base : String) (scanned : Document) (failure : Failure)
      (named : Sibling.baseName? d.filename d.options.templateExtension = some base)
      (scan : Sibling.scan folder base d = .ok scanned)
      (failed : (Roots.collect t scanned).error = some failure) :
      Course folder t d ⟨(Roots.collect t scanned).tree,
        (Roots.collect t scanned).state.document, .error failure⟩
  | completed (base : String) (scanned : Document) (tree : Tree) (document : Document)
      (decision : Decision)
      (named : Sibling.baseName? d.filename d.options.templateExtension = some base)
      (scan : Sibling.scan folder base d = .ok scanned)
      (ok : (Roots.collect t scanned).error = none)
      (ruling : Binding.Ruling (Roots.collect t scanned).tree
        (Roots.collect t scanned).state.document (Roots.collect t scanned).state.roots
        (tree, document, decision)) :
      Course folder t d
        ⟨tree, document, .ok (.completed (Roots.collect t scanned).state.roots decision)⟩

theorem run_course (folder : Folder) (t : Tree) (d : Document) :
    Course folder t d (run folder t d) := by
  rw [run]
  cases named : Sibling.baseName? d.filename d.options.templateExtension with
  | none => exact .skipped named
  | some base =>
      dsimp only
      cases scan : Sibling.scan folder base d with
      | error failure => exact .unread base failure named scan
      | ok scanned =>
          dsimp only
          rw [ofScanned]
          cases failed : (Roots.collect t scanned).error with
          | some failure => exact .stopped base scanned failure named scan failed
          | none =>
              exact .completed base scanned _ _ _ named scan failed (Binding.bind_ruling _ _ _)

section sweep

variable {folder : Folder} {t : Tree} {d scanned : Document} {base : String} {ids : List Nat}

theorem run_of_failure (wf : Tree.WellFormed t)
    (named : Sibling.baseName? d.filename d.options.templateExtension = some base)
    (scan : Sibling.scan folder base d = .ok scanned) (frontier : t.frontier = ids)
    {failure : Failure}
    (failed : (Walk.sweep Roots.visit t { document := scanned } [] ids).error = some failure) :
    run folder t d =
      let swept := Walk.sweep Roots.visit t { document := scanned } [] ids
      ⟨t.detachAll swept.gone, swept.state.document, .error failure⟩ := by
  have collected := Roots.collect_eq_sweep wf scanned
  rw [frontier] at collected
  simp only [run, named, scan, ofScanned, collected, Walk.Swept.walk, failed]

theorem report_of_failure (wf : Tree.WellFormed t)
    (named : Sibling.baseName? d.filename d.options.templateExtension = some base)
    (scan : Sibling.scan folder base d = .ok scanned) (frontier : t.frontier = ids)
    {failure : Failure}
    (failed : (Walk.sweep Roots.visit t { document := scanned } [] ids).error = some failure) :
    (run folder t d).report = .error failure :=
  congrArg Wiring.report (run_of_failure wf named scan frontier failed)

theorem run_of_sweep (wf : Tree.WellFormed t)
    (named : Sibling.baseName? d.filename d.options.templateExtension = some base)
    (scan : Sibling.scan folder base d = .ok scanned) (frontier : t.frontier = ids)
    (ok : (Walk.sweep Roots.visit t { document := scanned } [] ids).error = none) :
    run folder t d =
      let swept := Walk.sweep Roots.visit t { document := scanned } [] ids
      let bound := Binding.bind (t.detachAll swept.gone) swept.state.document swept.state.roots
      ⟨bound.1, bound.2.1, .ok (.completed swept.state.roots bound.2.2)⟩ := by
  have collected := Roots.collect_eq_sweep wf scanned
  rw [frontier] at collected
  simp only [run, named, scan, ofScanned, collected, Walk.Swept.walk, ok]

theorem report_of_sweep (wf : Tree.WellFormed t)
    (named : Sibling.baseName? d.filename d.options.templateExtension = some base)
    (scan : Sibling.scan folder base d = .ok scanned) (frontier : t.frontier = ids)
    (ok : (Walk.sweep Roots.visit t { document := scanned } [] ids).error = none) :
    (run folder t d).report =
      let swept := Walk.sweep Roots.visit t { document := scanned } [] ids
      .ok (.completed swept.state.roots
        (Binding.bind (t.detachAll swept.gone) swept.state.document swept.state.roots).2.2) :=
  congrArg Wiring.report (run_of_sweep wf named scan frontier ok)

end sweep

def besideComponent : Document where
  filename := "index.marko"
  component := some (.file "./component.js" "./component")
  renderer := some (.file "./component.js" "./component")

theorem run_beside_component (τ : Template) {ids : List Nat}
    (frontier : 0 :: (Template.frontierAll 1 τ.tops).map (·.1) = ids)
    (ok : (Walk.sweep Roots.visit (Tree.ofTemplate τ) { document := besideComponent } []
      ids).error = none) :
    run (Folder.ofPaths ["component.js"]) (Tree.ofTemplate τ) { filename := "index.marko" } =
      let swept := Walk.sweep Roots.visit (Tree.ofTemplate τ) { document := besideComponent } [] ids
      let bound := Binding.bind ((Tree.ofTemplate τ).detachAll swept.gone) swept.state.document
        swept.state.roots
      ⟨bound.1, bound.2.1, .ok (.completed swept.state.roots bound.2.2)⟩ := by
  have wf := Tree.wellFormed_of_reachable (Tree.reachable_ofTemplate τ)
  have scan : Sibling.scan (Folder.ofPaths ["component.js"]) "index" { filename := "index.marko" } =
      .ok besideComponent := by decide +kernel
  exact run_of_sweep wf (by decide +kernel) scan ((Tree.frontier_ofTemplate τ).trans frontier) ok

theorem collect_kept {t : Tree} (wf : Tree.WellFormed t) (d : Document) :
    (Roots.collect t d).tree.size = t.size ∧
      ∀ id, ((Roots.collect t d).tree.node id).attrs = (t.node id).attrs := by
  rw [Roots.collect_eq_sweep wf]
  constructor
  · exact Tree.size_detachAll t _
  · intro id
    exact Tree.view_detachAll Node.attrs t _ id (fun _ => rfl)

/-- However a run ends, if not by binding the roots, every node has the attributes it had. -/
theorem attrs_kept_unless_bound (folder : Folder) (t : Tree) (d : Document)
    (built : Tree.Reachable t)
    (unbound : ∀ roots rootCount keys,
      (run folder t d).report ≠ .ok (.completed roots (.bound rootCount keys))) :
    (run folder t d).tree.size = t.size ∧
      ∀ id, ((run folder t d).tree.node id).attrs = (t.node id).attrs := by
  have wf := Tree.wellFormed_of_reachable built
  have course := run_course folder t d
  generalize run folder t d = w at course unbound ⊢
  cases course with
  | skipped => exact ⟨rfl, fun _ => rfl⟩
  | unread => exact ⟨rfl, fun _ => rfl⟩
  | stopped base scanned => exact collect_kept wf scanned
  | completed base scanned tree document decision named scan ok ruling =>
      cases ruling with
      | bound _ _ _ _ keyed keys => exact absurd rfl (unbound _ _ keys)
      | _ => exact collect_kept wf scanned

def brokenPage : Template :=
  .root [
    .element .html "style" [⟨"{ .a {} }", .bare⟩] [] 1 none,
    .other (some "class") (some "class { total = 1; }") [] 2,
    .element .html "div" [⟨"key", .text "own"⟩] [] 3 none]

/-- The style block has left by the time the class ends the run. -/
theorem brokenPage_attrs_kept :
    let t := (Tree.ofTemplate brokenPage).detach 3
    let w := run (Folder.working "/srv/site") t { filename := "/srv/site/index.marko" }
    w.report = .error (.nonMethodMember "field `total`") ∧ w.tree.size = t.size ∧
      ∀ id, (w.tree.node id).attrs = (t.node id).attrs := by
  intro t w
  have whole := Tree.wellFormed_of_reachable (Tree.reachable_ofTemplate brokenPage)
  have built : Tree.Reachable t := .detach (Tree.reachable_ofTemplate brokenPage) (by decide)
  have tagged : ∀ id ∈ [3], ((Tree.ofTemplate brokenPage).node id).kind.isWrapper = false := by
    decide
  have frontier : t.frontier = [0, 1, 2] := by
    have left := Tree.frontier_detachAll whole tagged
    rw [Tree.frontier_ofTemplate] at left
    exact left.trans (by decide +kernel)
  have scan : Sibling.scan (Folder.working "/srv/site") "index"
      { filename := "/srv/site/index.marko" } =
      .ok { filename := "/srv/site/index.marko" } := by decide +kernel
  have failed : (Walk.sweep Roots.visit t { document := { filename := "/srv/site/index.marko" } } []
      [0, 1, 2]).error = some (.nonMethodMember "field `total`") := by decide +kernel
  have report : w.report = .error (.nonMethodMember "field `total`") :=
    report_of_failure (Tree.wellFormed_of_reachable built) (by decide +kernel) scan frontier failed
  refine ⟨report, attrs_kept_unless_bound (Folder.working "/srv/site") t _ built ?_⟩
  intro roots rootCount keys done
  cases report.symm.trans done

end Wiring

end TemplateWiring
