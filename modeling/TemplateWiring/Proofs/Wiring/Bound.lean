import TemplateWiring.Proofs.Binding.Marking
import TemplateWiring.Proofs.Tree.Grafting
import TemplateWiring.Proofs.Wiring.Completed

namespace TemplateWiring.Wiring

open TemplateWiring.Tree Binding

/-- The roots have been marked, and those that are given a key carry it last. -/
structure Binds (o : Options) (before after : Tree) (roots : List Nat) (keys : List String) :
    Prop where
  linked : ∀ id ∈ roots, after.Linked id
  ordered : roots.Sublist before.documentOrder
  distinct : roots.Nodup
  others : ∀ id, id ∉ roots → (after.node id).attrs = (before.node id).attrs
  unkeyed : ∀ id ∈ roots, receives (decide (1 < roots.length)) (before.node id) = false →
    Attr.Written o.boundRootAttribute .bare (before.node id).attrs (after.node id).attrs
  keyed : ∀ i id : Nat, (receivers (decide (1 < roots.length)) before roots)[i]? = some id →
    ∃ attrs, Attr.Written o.boundRootAttribute .bare (before.node id).attrs attrs ∧
      (after.node id).attrs = attrs ++ [⟨"key", .text (o.keyPrefix ++ toString i)⟩]
  numbered : keys = (List.range (receivers (decide (1 < roots.length)) before roots).length).map
    fun i : Nat => o.keyPrefix ++ toString i
  unrepeated : keys.Nodup

variable {t : Tree}

theorem receives_detachAll (t : Tree) (gone : List Nat) (several : Bool) (id : Nat) :
    receives several ((t.detachAll gone).node id) = receives several (t.node id) :=
  view_detachAll (receives several) t gone id (fun _ => rfl)

theorem receivers_detachAll (t : Tree) (gone : List Nat) (several : Bool) (ids : List Nat) :
    receivers several (t.detachAll gone) ids = receivers several t ids := by
  apply List.filter_congr
  intro id _
  exact receives_detachAll t gone several id

theorem attrs_detachAll (t : Tree) (gone : List Nat) (id : Nat) :
    ((t.detachAll gone).node id).attrs = (t.node id).attrs :=
  view_detachAll Node.attrs t gone id (fun _ => rfl)

theorem linked_markAll (wf : WellFormed t) (o : Options) {gone roots : List Nat}
    (tagged : ∀ id ∈ gone, (t.node id).kind.isWrapper = false)
    (frontier : ∀ id ∈ roots, id ∈ t.frontier) (stay : ∀ id ∈ roots, id ∉ gone) (several : Bool) :
    ∀ id ∈ roots, (markAll o several (t.detachAll gone) 0 roots).1.Linked id := by
  intro id member
  have left : id ∈ (t.detachAll gone).frontier := by
    rw [frontier_detachAll wf tagged, List.mem_filter]
    exact ⟨frontier id member, by simpa using stay id member⟩
  have reached := (mem_frontier (wellFormed_detachAll wf gone) id).mp left
  have kept : (markAll o several (t.detachAll gone) 0 roots).1.Reached NodeKind.isWrapper id := by
    refine reached_congr ?_ ?_ reached
    · exact fun id => view_markAll o several _ 0 roots Node.children id (fun _ _ => rfl)
    · exact fun id => view_markAll o several _ 0 roots Node.kind id (fun _ _ => rfl)
  exact kept.linked

theorem binds_markAll (wf : WellFormed t) {o : Options} (free : Unrelated o) {gone roots : List Nat}
    (tagged : ∀ id ∈ gone, (t.node id).kind.isWrapper = false)
    (frontier : roots.Sublist t.frontier) (stay : ∀ id ∈ roots, id ∉ gone) :
    Binds o t (markAll o (decide (1 < roots.length)) (t.detachAll gone) 0 roots).1 roots
      (markAll o (decide (1 < roots.length)) (t.detachAll gone) 0 roots).2 := by
  have distinct := (frontier_nodup wf).sublist frontier
  have inside : ∀ id ∈ roots, id < (t.detachAll gone).size := by
    intro id member
    rw [size_detachAll]
    exact frontier_inside wf id (frontier.subset member)
  obtain ⟨unkeyed, keyed, keys⟩ :=
    markAll_marking (decide (1 < roots.length)) (t.detachAll gone) 0 roots free inside distinct
  rw [receivers_detachAll] at keyed keys
  constructor
  · exact linked_markAll wf o tagged (fun id member => frontier.subset member) stay _
  · exact frontier.trans (frontier_sublist wf)
  · exact distinct
  · intro id stranger
    rw [node_markAll_ne _ _ _ _ _ stranger, attrs_detachAll]
  · intro id member silent
    rw [unkeyed id member (by rw [receives_detachAll, silent]), ← attrs_detachAll t gone]
    exact Attr.written_set _ _ _
  · intro i id found
    have asked := (List.mem_filter.mp (List.mem_of_getElem? found)).2
    have written := keyed i id found
    rw [Nat.zero_add] at written
    refine ⟨Attr.set (t.node id).attrs o.boundRootAttribute .bare, Attr.written_set _ _ _, ?_⟩
    have absent : Attr.has (t.node id).attrs "key" = false := by
      simp only [receives, Bool.and_eq_true, Bool.not_eq_true', Bool.or_eq_false_iff] at asked
      exact asked.1.1
    have unnamed :
        Attr.has (Attr.set (t.node id).attrs o.boundRootAttribute .bare) "key" = false := by
      rw [Attr.has_set_ne _ free.1, absent]
    rw [written, ← Attr.set_absent _ unnamed, ← attrs_detachAll t gone]
    rfl
  · rw [keys, List.range_eq_range']
    rfl
  · rw [keys]
    exact keys_nodup o 0 _

theorem binds_run (folder : Folder) (built : Reachable t) (d : Document)
    (free : Unrelated d.options) {roots : Roots} {rootCount : Nat} {keys : List String}
    (done : (run folder t d).report = .ok (.completed roots (.bound rootCount keys))) :
    roots.nodes.length = rootCount ∧
      Binds d.options t (run folder t d).tree roots.nodes keys := by
  have wf := wellFormed_of_reachable built
  obtain ⟨base, scanned, swept, completed⟩ := run_completed wf done
  have binds := binds_markAll wf free completed.gone_tagged completed.roots_frontier
    completed.roots_stay
  have ruling := completed.ruling
  generalize (run folder t d).tree = tree at ruling ⊢
  generalize (run folder t d).document = document at ruling
  cases ruling with
  | bound own ready some clear _ _ marking =>
      rw [completed.options] at marking
      refine ⟨rfl, ?_⟩
      rw [marking] at binds
      exact binds

/-- The keys are those that a counter of 32 bits gives out in the tree that the search has left, as long
as there are no more than it can count. -/
theorem counted_run (folder : Folder) (wf : WellFormed t) (d : Document) {roots : Roots}
    {rootCount : Nat} {keys : List String}
    (done : (run folder t d).report = .ok (.completed roots (.bound rootCount keys))) :
    ∃ base scanned,
      Sibling.baseName? d.filename d.options.templateExtension = some base ∧
      Sibling.scan folder base d = .ok scanned ∧
      (keys.length ≤ 2147483647 →
        markAll32 d.options (decide (1 < roots.nodes.length)) (Roots.collect t scanned).tree 0
          roots.nodes = ((run folder t d).tree, keys)) := by
  have course := run_course folder t d
  generalize run folder t d = w at course done
  cases course with
  | skipped => cases done
  | unread => cases done
  | stopped => cases done
  | completed base scanned tree document decision named scan ok ruling =>
      cases done
      have options : (Roots.collect t scanned).state.document.options = d.options := by
        rw [Roots.collect_eq_sweep wf] at ok ⊢
        obtain ⟨-, -, kept⟩ := Roots.sweep_roots t.frontier { document := scanned } [] ok
        exact kept.trans (Sibling.scanned_scan scan).options
      refine ⟨base, scanned, named, scan, fun room => ?_⟩
      cases ruling with
      | bound _ _ _ _ _ _ marked =>
          rw [options] at marked
          have counted := markAll32_eq d.options (decide (1 < _)) (Roots.collect t scanned).tree 0 _
            (by rwa [Nat.zero_add, marked])
          exact counted.trans marked

/-- Binding end to end: the roots of the template are all of them marked, and those that say in no
way of their own how they are to be found have numbered keys, where they need one. A counter of 32 bits
will do for the numbers as long as there are no more keys than it can count. -/
theorem bound_roots_marked_and_keyed (folder : Folder) (n : Template) (filename : String)
    (o : Options) (notKey : o.boundRootAttribute ≠ "key") (notRef : o.boundRootAttribute ≠ "ref")
    (roots : Roots) (rootCount : Nat) (keys : List String)
    (done : (run folder (ofTemplate n) { filename := filename, options := o }).report =
      .ok (.completed roots (.bound rootCount keys))) :
    roots.nodes.length = rootCount ∧
      Binds o (ofTemplate n)
        (run folder (ofTemplate n) { filename := filename, options := o }).tree roots.nodes keys ∧
      ∃ base scanned,
        Sibling.baseName? filename o.templateExtension = some base ∧
        Sibling.scan folder base { filename := filename, options := o } = .ok scanned ∧
        (keys.length ≤ 2147483647 →
          markAll32 o (decide (1 < roots.nodes.length))
              (Roots.collect (ofTemplate n) scanned).tree 0 roots.nodes =
            ((run folder (ofTemplate n) { filename := filename, options := o }).tree, keys)) := by
  have built := reachable_ofTemplate n
  obtain ⟨count, binds⟩ :=
    binds_run folder built { filename := filename, options := o } ⟨notKey, notRef⟩ done
  exact ⟨count, binds, counted_run folder (wellFormed_of_reachable built) _ done⟩

def mixedPage : Template :=
  .root [
    .container [
      .element .html "div" [] [] 0 none,
      .element .html "STYLE" [⟨"{ .a {} }", .bare⟩] [] 5 none] 1,
    .element .custom "app-x" [⟨"ref", .bare⟩] [] 9 none,
    .element .custom "app-x" [⟨"_componentbind", .text "old"⟩, ⟨"_componentbind", .code "x"⟩] []
      9 none]

theorem mixedPage_marked_and_keyed :
    let w := run (Folder.ofPaths ["component.js"] "/srv/site") (ofTemplate mixedPage)
      { filename := "/srv/site/index.marko" }
    w.report = .ok (.completed { nodes := [2, 4, 5] } (.bound 3 ["_r0", "_r1"])) ∧
      Binds {} (ofTemplate mixedPage) w.tree [2, 4, 5] ["_r0", "_r1"] := by
  have wf := wellFormed_of_reachable (reachable_ofTemplate mixedPage)
  have frontier : (ofTemplate mixedPage).frontier = [0, 1, 2, 3, 4, 5] :=
    (frontier_ofTemplate mixedPage).trans (by decide +kernel)
  have scan : Sibling.scan (Folder.ofPaths ["component.js"] "/srv/site") "index"
      { filename := "/srv/site/index.marko" } =
      .ok { filename := "/srv/site/index.marko"
            component := some (.file "/srv/site/component.js" "./component")
            renderer := some (.file "/srv/site/component.js" "./component") } := by decide +kernel
  have ok : (Walk.sweep Roots.visit (ofTemplate mixedPage)
      { document := { filename := "/srv/site/index.marko"
                      component := some (.file "/srv/site/component.js" "./component")
                      renderer := some (.file "/srv/site/component.js" "./component") } } []
      [0, 1, 2, 3, 4, 5]).error = none := by decide +kernel
  have report : (run (Folder.ofPaths ["component.js"] "/srv/site") (ofTemplate mixedPage)
      { filename := "/srv/site/index.marko" }).report =
      .ok (.completed { nodes := [2, 4, 5] } (.bound 3 ["_r0", "_r1"])) := by
    rw [report_of_sweep wf (by decide +kernel) scan frontier ok]
    exact congrArg Except.ok (by decide +kernel)
  obtain ⟨-, binds, -⟩ := bound_roots_marked_and_keyed (Folder.ofPaths ["component.js"] "/srv/site")
    mixedPage "/srv/site/index.marko" {} (by decide) (by decide) _ 3 _ report
  exact ⟨report, binds⟩

end TemplateWiring.Wiring
