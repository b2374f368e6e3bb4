import Mathlib.Data.List.Perm.Subperm
import TemplateWiring.Proofs.Roots.Repetition
import TemplateWiring.Proofs.Template.Height
import TemplateWiring.Proofs.Wiring.Remainder

namespace TemplateWiring

def Decision.isBound : Decision → Bool
  | bound .. => true
  | legacyExplicitBind | noBoundComponent | noRootNodes | ambiguousIds => false

namespace Binding

theorem tree_ruling {t : Tree} {d : Document} {r : Roots} {out : Tree × Document × Decision}
    (ruling : Ruling t d r out) (unbound : out.2.2.isBound = false) : out.1 = t := by
  cases ruling with
  | bound => cases unbound
  | _ => rfl

theorem rootCount_ruling {t : Tree} {d : Document} {r : Roots} {u : Tree} {after : Document}
    {rootCount : Nat} {keys : List String}
    (ruling : Ruling t d r (u, after, .bound rootCount keys)) : rootCount = r.nodes.length := by
  cases ruling
  rfl

theorem diagnostics_ruling {t : Tree} {d : Document} {r : Roots}
    {out : Tree × Document × Decision} (ruling : Ruling t d r out) :
    out.2.1.diagnostics = d.diagnostics := by
  cases ruling <;> rfl

end Binding

namespace Wiring

open TemplateWiring.Tree

variable {folder : Folder} {t : Tree} {d : Document} {roots : Roots} {decision : Decision}

theorem Completed.height_run {base : String} {scanned : Document}
    {swept : Walk.Swept Roots.Search Failure} (wf : WellFormed t)
    (completed : Completed folder t d base scanned swept roots decision) :
    (run folder t d).tree.toTemplate.height ≤
      t.toTemplate.height + if decision.isBound then 1 else 0 := by
  have wf' := wellFormed_detachAll wf swept.gone
  have less : (t.detachAll swept.gone).toTemplate.height ≤ t.toTemplate.height := by
    rw [toTemplate_eq wf, toTemplate_eq wf']
    exact height_detachAll wf swept.gone 0
  cases binds : decision.isBound with
  | false =>
      have same : (run folder t d).tree = t.detachAll swept.gone :=
        Binding.tree_ruling completed.ruling binds
      rw [same, if_neg Bool.false_ne_true]
      exact less
  | true =>
      have same := unadorned_ruling wf' (completed.roots_reached wf) completed.ruling
      have higher := ((run folder t d).tree.toTemplate.height_unadorned).2
      have lower := ((t.detachAll swept.gone).toTemplate.height_unadorned).1
      rw [same] at higher
      rw [if_pos rfl]
      omega

theorem Completed.length_roots {base : String} {scanned : Document}
    {swept : Walk.Swept Roots.Search Failure} (wf : WellFormed t)
    (completed : Completed folder t d base scanned swept roots decision) :
    roots.nodes.length < t.size := by
  have top : 0 ∉ roots.nodes := by
    intro member
    have root : (t.node 0).kind = .root := (wf.top 0 wf.rooted).mpr rfl
    rw [completed.gathered] at member
    have counted := (List.mem_filter.mp member).2
    simp [Roots.isRoot, root] at counted
  have distinct : (0 :: roots.nodes).Nodup :=
    List.nodup_cons.mpr ⟨top, completed.roots_frontier.nodup (frontier_nodup wf)⟩
  have inside : (0 :: roots.nodes) ⊆ List.range t.size := by
    intro id member
    rw [List.mem_range]
    rcases List.mem_cons.mp member with rfl | root
    · exact wf.rooted
    · exact frontier_inside wf id (completed.roots_frontier.subset root)
  have fewer := (distinct.subperm inside).length_le
  rwa [List.length_range] at fewer

theorem reported_inside (wf : WellFormed t) {filename : String} {o : Options}
    (done : (run folder t { filename := filename, options := o }).report =
      .ok (.completed roots decision)) :
    ∀ found ∈ (run folder t { filename := filename, options := o }).document.diagnostics,
      ∀ id ∈ found.node, id < t.size := by
  have course := run_course folder t { filename := filename, options := o }
  generalize run folder t { filename := filename, options := o } = w at course done ⊢
  cases course with
  | skipped => cases done
  | unread => cases done
  | stopped => cases done
  | completed base scanned tree document _ named scan ok ruling =>
      rw [Roots.collect_eq_sweep wf] at ok ruling
      have fresh : scanned.diagnostics = [] := (Sibling.scanned_scan scan).diagnostics
      have reports := Roots.sweep_diagnostics t t.frontier { document := scanned } []
        (frontier_nodup wf) (fun _ _ => List.not_mem_nil) ok
      intro found member id named
      rw [Binding.diagnostics_ruling ruling] at member
      dsimp only [Walk.Swept.walk] at member
      rw [reports, fresh, List.nil_append] at member
      obtain ⟨node, listed, complaint⟩ := List.mem_filterMap.mp member
      rw [(Roots.concerns_of_complaint complaint).names id named]
      exact frontier_inside wf node (List.mem_filter.mp listed).1

end Wiring

end TemplateWiring
