import TemplateWiring.Proofs.Roots.Leavers
import TemplateWiring.Proofs.Sibling.Scan
import TemplateWiring.Proofs.Wiring.Course

namespace TemplateWiring.Wiring

open TemplateWiring.Tree

structure Completed (folder : Folder) (t : Tree) (d : Document) (base : String)
    (scanned : Document) (swept : Walk.Swept Roots.Search Failure) (roots : Roots)
    (decision : Decision) : Prop where
  named : Sibling.baseName? d.filename d.options.templateExtension = some base
  scan : Sibling.scan folder base d = .ok scanned
  leaving : Roots.Leaving t scanned [] t.frontier swept
  gathered : roots = Roots.gather d.options t t.frontier
  options : swept.state.document.options = d.options
  ruling : Binding.Ruling (t.detachAll swept.gone) swept.state.document roots
    ((run folder t d).tree, (run folder t d).document, decision)

variable {folder : Folder} {t : Tree} {d : Document} {base : String} {scanned : Document}
  {swept : Walk.Swept Roots.Search Failure} {roots : Roots} {decision : Decision}

theorem run_completed (wf : WellFormed t)
    (done : (run folder t d).report = .ok (.completed roots decision)) :
    ∃ base scanned swept, Completed folder t d base scanned swept roots decision := by
  have course := run_course folder t d
  generalize reached : run folder t d = w at course done
  cases course with
  | skipped => cases done
  | unread => cases done
  | stopped => cases done
  | completed base scanned tree document _ named scan ok ruling =>
      cases done
      rw [Roots.collect_eq_sweep wf] at ok ruling reached ⊢
      have leaving := Roots.sweep_leaving t.frontier { document := scanned } [] ok
      obtain ⟨gathered, -, kept⟩ := Roots.sweep_roots t.frontier { document := scanned } [] ok
      have options : scanned.options = d.options := (Sibling.scanned_scan scan).options
      rw [Roots.empty_merge] at gathered
      refine ⟨base, scanned, Walk.sweep Roots.visit t { document := scanned } [] t.frontier, ?_⟩
      constructor
      · exact named
      · exact scan
      · exact leaving
      · rw [← options]
        exact gathered
      · exact kept.trans options
      · rw [reached]
        exact ruling

namespace Completed

variable (completed : Completed folder t d base scanned swept roots decision)
include completed

theorem scanned_options : scanned.options = d.options :=
  (Sibling.scanned_scan completed.scan).options

theorem roots_frontier : roots.nodes.Sublist t.frontier := by
  rw [completed.gathered]
  exact List.filter_sublist

theorem gone_tagged : ∀ id ∈ swept.gone, (t.node id).kind.isWrapper = false :=
  fun _ left => (completed.leaving.not_root left).2.1

theorem roots_stay : ∀ id ∈ roots.nodes, id ∉ swept.gone := by
  intro id member left
  have other := (completed.leaving.not_root left).2.2
  rw [completed.gathered] at member
  rw [completed.scanned_options, (List.mem_filter.mp member).2] at other
  cases other

theorem roots_reached (wf : WellFormed t) :
    ∀ id ∈ roots.nodes, id ∈ (t.detachAll swept.gone).frontier := by
  intro id member
  rw [frontier_detachAll wf completed.gone_tagged, List.mem_filter]
  exact ⟨completed.roots_frontier.subset member, by simpa using completed.roots_stay id member⟩

end Completed

end TemplateWiring.Wiring
