import TemplateWiring.Proofs.Binding.Keys
import TemplateWiring.Proofs.Tree.Grafting
import TemplateWiring.Proofs.Wiring.Completed

namespace TemplateWiring.Wiring

open TemplateWiring.Tree Binding

variable {folder : Folder} {t : Tree} {d : Document} {roots : Roots} {rootCount : Nat}
  {keys : List String}

theorem keyless_detachAll (t : Tree) (gone ids : List Nat) (o : Options) (several : Bool) :
    keptKeys o (ids.map (t.detachAll gone).node) = keptKeys o (ids.map t.node) ∧
      receiverCount o several (ids.map (t.detachAll gone).node) =
        receiverCount o several (ids.map t.node) := by
  have key (id : Nat) : staticKey? (marked o ((t.detachAll gone).node id)) =
      staticKey? (marked o (t.node id)) :=
    view_detachAll (fun n => staticKey? (marked o n)) t gone id (fun _ => rfl)
  have asked (id : Nat) : receives several (marked o ((t.detachAll gone).node id)) =
      receives several (marked o (t.node id)) :=
    view_detachAll (fun n => receives several (marked o n)) t gone id (fun _ => rfl)
  constructor
  · simp only [keptKeys, staticKeys, List.filterMap_map, Function.comp_def, key]
  · simp only [receiverCount, List.countP_map, Function.comp_def, asked]

theorem keying_run (built : Reachable t)
    (done : (run folder t d).report = .ok (.completed roots (.bound rootCount keys))) :
    Keying d.options (decide (1 < roots.nodes.length)) 0 (roots.nodes.map t.node)
      (roots.nodes.map (run folder t d).tree.node) keys := by
  have wf := wellFormed_of_reachable built
  obtain ⟨base, scanned, swept, completed⟩ := run_completed wf done
  have distinct := (frontier_nodup wf).sublist completed.roots_frontier
  have inside : ∀ id ∈ roots.nodes, id < (t.detachAll swept.gone).size := by
    intro id member
    rw [size_detachAll]
    exact frontier_inside wf id (completed.roots_frontier.subset member)
  have ruling := completed.ruling
  generalize (run folder t d).tree = tree at ruling ⊢
  generalize (run folder t d).document = document at ruling
  cases ruling with
  | bound own ready some clear _ _ marking =>
      obtain ⟨given, held⟩ := markAll_keying swept.state.document.options
        (decide (1 < roots.nodes.length)) (t.detachAll swept.gone) 0 roots.nodes inside distinct
      obtain ⟨kept, count⟩ := keyless_detachAll t swept.gone roots.nodes
        swept.state.document.options (decide (1 < roots.nodes.length))
      rw [marking, kept] at held
      rw [marking, count] at given
      rw [← completed.options]
      exact ⟨given, held⟩

/-- Where the roots had different keys written by hand, they have different keys after binding if
and only if no key that is given out was written by hand. -/
theorem keys_differ_unless_taken (folder : Folder) (t : Tree) (d : Document) (built : Reachable t)
    (roots : Roots) (rootCount : Nat) (keys : List String)
    (done : (run folder t d).report = .ok (.completed roots (.bound rootCount keys)))
    (distinct : (staticKeys (roots.nodes.map t.node)).Nodup) :
    (staticKeys (roots.nodes.map (run folder t d).tree.node)).Nodup ↔
      ∀ key ∈ keys, key ∉ staticKeys (roots.nodes.map t.node) :=
  (keying_run built done).nodup_iff distinct

def keyedPage (key : String) : Template :=
  .root [
    .element .html "div" [⟨"key", .text key⟩] [] 0 none,
    .element .html "p" [] [] 9 none]

theorem keyedPage_bound {key : String} (known : key = "_r0" ∨ key = "_r1") :
    (run (Folder.ofPaths ["component.js"]) (ofTemplate (keyedPage key))
      { filename := "index.marko" }).report =
      .ok (.completed { nodes := [1, 2] } (.bound 2 ["_r0"])) := by
  have ok : (Walk.sweep Roots.visit (ofTemplate (keyedPage key)) { document := besideComponent } []
      [0, 1, 2]).error = none := by
    rcases known with rfl | rfl <;> decide +kernel
  rw [run_beside_component (keyedPage key) rfl ok]
  apply congrArg Except.ok
  rcases known with rfl | rfl <;> decide +kernel

theorem keyedPage_keys_differ :
    (staticKeys ([1, 2].map (ofTemplate (keyedPage "_r1")).node)).Nodup ∧
      (staticKeys ([1, 2].map (run (Folder.ofPaths ["component.js"])
        (ofTemplate (keyedPage "_r1")) { filename := "index.marko" }).tree.node)).Nodup := by
  have distinct : (staticKeys ([1, 2].map (ofTemplate (keyedPage "_r1")).node)).Nodup := by
    decide +kernel
  refine ⟨distinct, ?_⟩
  apply (keys_differ_unless_taken _ _ _ (reachable_ofTemplate _) _ _ _ (keyedPage_bound (.inr rfl))
    distinct).mpr
  decide +kernel

/-- The first root already has the key that the second one is given. -/
theorem keyedPage_key_taken :
    let w := run (Folder.ofPaths ["component.js"]) (ofTemplate (keyedPage "_r0"))
      { filename := "index.marko" }
    w.report = .ok (.completed { nodes := [1, 2] } (.bound 2 ["_r0"])) ∧
      (staticKeys ([1, 2].map (ofTemplate (keyedPage "_r0")).node)).Nodup ∧
      ¬ (staticKeys ([1, 2].map w.tree.node)).Nodup := by
  intro w
  have distinct : (staticKeys ([1, 2].map (ofTemplate (keyedPage "_r0")).node)).Nodup := by
    decide +kernel
  have keying := keying_run (reachable_ofTemplate _) (keyedPage_bound (.inl rfl))
  refine ⟨keyedPage_bound (.inl rfl), distinct, ?_⟩
  intro differ
  have apart := (keying.nodup_iff distinct).mp differ "_r0" List.mem_cons_self
  exact apart (by decide +kernel)

end TemplateWiring.Wiring
