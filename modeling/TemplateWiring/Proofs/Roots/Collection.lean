import TemplateWiring.Proofs.Roots.Step
import TemplateWiring.Proofs.Template.Attribute
import TemplateWiring.Proofs.Tree.Grafting

namespace TemplateWiring.Roots

open TemplateWiring.Tree

def identified (o : Options) (t : Tree) (ids : List Nat) : List Nat :=
  ids.filter fun id => isIdentified o (t.node id)

/-- The roots among a list of nodes, as the nodes stand in `t`. -/
def gather (o : Options) (t : Tree) (ids : List Nat) : Roots where
  nodes := ids.filter fun id => isRoot o (t.node id)
  legacyBind := ids.any fun id => bindsItself o (t.node id)
  idCount := (identified o t ids).length
  idNode := (identified o t ids).getLast?
  id := (identified o t ids).getLast?.bind fun id => t.attr? id "id"

def merge (first second : Roots) : Roots where
  nodes := first.nodes ++ second.nodes
  legacyBind := first.legacyBind || second.legacyBind
  idCount := first.idCount + second.idCount
  idNode := second.idNode.or first.idNode
  id := second.id.or first.id

theorem merge_assoc (first second third : Roots) :
    (first.merge second).merge third = first.merge (second.merge third) := by
  simp [merge, Bool.or_assoc, Nat.add_assoc, Option.or_assoc]

theorem empty_merge (r : Roots) : merge {} r = r := by
  simp [merge]

theorem merge_gather_nil (r : Roots) (o : Options) (t : Tree) : r.merge (gather o t []) = r := by
  simp [merge, gather, identified]

theorem attr_of_identified {o : Options} {t : Tree} {ids : List Nat} {id : Nat}
    (found : id ∈ identified o t ids) : ∃ value, t.attr? id "id" = some value := by
  have named := (List.mem_filter.mp found).2
  simp only [isIdentified, Bool.and_eq_true, ← Attr.lookup_isSome] at named
  exact Option.isSome_iff_exists.mp named.2

theorem gather_append (o : Options) (t : Tree) (first second : List Nat) :
    gather o t (first ++ second) = (gather o t first).merge (gather o t second) := by
  have split : identified o t (first ++ second) = identified o t first ++ identified o t second :=
    List.filter_append _ _
  have last : ((identified o t first ++ identified o t second).getLast?.bind
      fun id => t.attr? id "id") =
      ((identified o t second).getLast?.bind fun id => t.attr? id "id").or
        ((identified o t first).getLast?.bind fun id => t.attr? id "id") := by
    rw [List.getLast?_append]
    cases latest : (identified o t second).getLast? with
    | none => simp
    | some id =>
        obtain ⟨value, found⟩ := attr_of_identified (List.mem_of_getLast? latest)
        simp [found]
  simp only [gather, merge, split, last, List.filter_append, List.any_append, List.length_append]
  rw [List.getLast?_append]

theorem options_step {s : Search} {n : Node} {id : Nat} {v : Visit Search Failure}
    (step : Step s n id v) : v.state.document.options = s.document.options := by
  cases step with
  | malformed complaint offset => cases offset <;> rfl
  | _ => rfl

theorem gather_single (o : Options) (t : Tree) (id : Nat) : gather o t [id] =
    { nodes := if isRoot o (t.node id) then [id] else []
      legacyBind := bindsItself o (t.node id)
      idCount := if isIdentified o (t.node id) then 1 else 0
      idNode := if isIdentified o (t.node id) then some id else none
      id := if isIdentified o (t.node id) then t.attr? id "id" else none } := by
  cases root : isRoot o (t.node id) <;> cases named : isIdentified o (t.node id) <;>
    simp [gather, identified, root, named]

/-- Counting the `id` of an element is all that a node without a place among the roots adds. -/
theorem counted_eq (s : Search) (t : Tree) (id : Nat) (kind : (t.node id).kind = .element)
    (free : bindsItself s.document.options (t.node id) = false) :
    counted s (t.node id) id =
      s.roots.merge { gather s.document.options t [id] with nodes := [], legacyBind := false } := by
  have named : isIdentified s.document.options (t.node id) = (t.attr? id "id").isSome := by
    simp [isIdentified, kind, free, Tree.attr?, Attr.lookup_isSome]
  rw [gather_single, named, counted, ← Tree.attr?]
  cases t.attr? id "id" with
  | none => simp [countId, merge]
  | some value => simp [countId, merge]

theorem add_merge (r q : Roots) (id : Nat) :
    (r.merge q).add id = r.merge (q.add id) := by
  simp [add, merge]

theorem roots_step {s : Search} {t : Tree} {id : Nat} {v : Visit Search Failure}
    (step : Step s (t.node id) id v) :
    v.state.roots = s.roots.merge (gather s.document.options t [id]) := by
  have stays (root : isRoot s.document.options (t.node id) = false)
      (free : bindsItself s.document.options (t.node id) = false) :
      { gather s.document.options t [id] with nodes := [], legacyBind := false } =
        gather s.document.options t [id] := by
    simp [gather_single, root, free]
  have inert (kind : (t.node id).kind ≠ .element) (ne : (t.node id).kind ≠ .custom) :
      s.roots = s.roots.merge (gather s.document.options t [id]) := by
    have root : isRoot s.document.options (t.node id) = false := by
      cases other : (t.node id).kind <;> simp_all [isRoot]
    have free : bindsItself s.document.options (t.node id) = false := by simp [bindsItself, kind]
    have unnamed : isIdentified s.document.options (t.node id) = false := by
      simp [isIdentified, kind]
    simp [gather_single, root, free, unnamed, merge]
  have style (kind : (t.node id).kind = .element)
      (free : bindsItself s.document.options (t.node id) = false)
      (tag : (t.node id).isTag "style" = true) :
      counted s (t.node id) id = s.roots.merge (gather s.document.options t [id]) := by
    rw [counted_eq s t id kind free, stays (by simp [isRoot, kind, tag]) free]
  cases step with
  | wrapper kind =>
      apply inert <;> intro other <;> simp [other, NodeKind.isWrapper] at kind
  | custom kind =>
      simp [gather_single, isRoot, bindsItself, isIdentified, kind, merge, add]
  | bound kind own =>
      simp [gather_single, isRoot, own, isIdentified, kind, merge]
  | element kind free tag =>
      have root : isRoot s.document.options (t.node id) = true := by
        simp [isRoot, kind, free, tag]
      change (counted s (t.node id) id).add id = _
      rw [counted_eq s t id kind free, add_merge]
      simp [gather_single, root, free, add]
  | plainStyle kind free tag => exact style kind free tag
  | refusedStyle name kind free tag => exact style kind free tag
  | takenStyle language code kind free tag => exact style kind free tag
  | bystander kind => exact inert (by simp [kind]) (by simp [kind])
  | malformed complaint offset kind => exact inert (by simp [kind]) (by simp [kind])
  | derived kind => exact inert (by simp [kind]) (by simp [kind])
  | fatal failure kind => exact inert (by simp [kind]) (by simp [kind])
  | conflict object other kind => exact inert (by simp [kind]) (by simp [kind])
  | installed object kind => exact inert (by simp [kind]) (by simp [kind])

theorem marked_step {s : Search} {n : Node} {id : Nat} {v : Visit Search Failure}
    (step : Step s n id v) : v.state.document.marked =
      (s.document.marked || bindsItself s.document.options n) := by
  have inert (kind : n.kind ≠ .element) :
      s.document.marked = (s.document.marked || bindsItself s.document.options n) := by
    simp [bindsItself, kind]
  have unbound (free : bindsItself s.document.options n = false) :
      s.document.marked = (s.document.marked || bindsItself s.document.options n) := by
    simp [free]
  cases step with
  | wrapper kind =>
      apply inert
      intro other
      simp [other, NodeKind.isWrapper] at kind
  | bound kind own => simp [own, Document.markBound]
  | element _ free => exact unbound free
  | plainStyle _ free => exact unbound free
  | refusedStyle _ _ free => exact unbound free
  | takenStyle _ _ _ free => exact unbound free
  | malformed complaint offset kind => cases offset <;> exact inert (by simp [kind])
  | custom kind => exact inert (by simp [kind])
  | bystander kind => exact inert (by simp [kind])
  | derived kind => exact inert (by simp [kind])
  | fatal failure kind => exact inert (by simp [kind])
  | conflict object other kind => exact inert (by simp [kind])
  | installed object kind => exact inert (by simp [kind])

theorem sweep_roots {t : Tree} (ids : List Nat) (s : Search) (gone : List Nat)
    (ok : (Walk.sweep visit t s gone ids).error = none) :
    (Walk.sweep visit t s gone ids).state.roots =
        s.roots.merge (gather s.document.options t ids) ∧
      (Walk.sweep visit t s gone ids).state.document.marked =
        (s.document.marked || ids.any fun id => bindsItself s.document.options (t.node id)) ∧
      (Walk.sweep visit t s gone ids).state.document.options = s.document.options := by
  induction ids generalizing s gone with
  | nil => simp [Walk.sweep, merge_gather_nil]
  | cons id rest ih =>
      have step := visit_step s t id
      have unfolded := Walk.sweep_cons s gone id rest ok
      rw [unfolded] at ok ⊢
      have tail := ih _ _ ok
      rw [roots_step step, marked_step step, options_step step, merge_assoc, ← gather_append,
        Bool.or_assoc] at tail
      exact tail

theorem collect_eq_sweep {t : Tree} (wf : WellFormed t) (d : Document) :
    collect t d = (Walk.sweep visit t { document := d } [] t.frontier).walk t :=
  Walk.run_eq_sweep wf visit_local _

/-- The roots are those of the frontier as it was before the walk, whatever left the tree on the
way; the document is marked when an element of the frontier binds itself. -/
theorem collect_gathers_frontier (t : Tree) (d : Document) (built : Reachable t)
    (ok : (collect t d).error = none) :
    (collect t d).state.roots = gather d.options t t.frontier ∧
      (collect t d).state.roots.nodes.Nodup ∧
      (collect t d).state.document.marked =
        (d.marked || t.frontier.any fun id => bindsItself d.options (t.node id)) := by
  have wf := wellFormed_of_reachable built
  rw [collect_eq_sweep wf] at ok ⊢
  obtain ⟨roots, marked, -⟩ := sweep_roots t.frontier { document := d } [] ok
  rw [empty_merge] at roots
  refine ⟨roots, ?_, marked⟩
  change (Walk.sweep visit t { document := d } [] t.frontier).state.roots.nodes.Nodup
  rw [roots]
  exact (frontier_nodup wf).filter _

/-- A tree that is not numbered in document order: the style tag was added to the container last.
An element that binds itself has left. -/
def scattered : Tree :=
  ((ofTemplate (.root [
    .container [.element .html "div" [⟨"id", .text "main"⟩, ⟨"id", .bare⟩] [] 2 none] 1,
    .element .custom "app-tab" [] [] 3 none,
    .element .html "p" [⟨"w-bind", .bare⟩] [] 4 none])).append 1
      { kind := .element, tag := some "STYLE"
        attrs := [⟨"id", .text "look"⟩, ⟨"{ .a {} }", .bare⟩] }).detach 4

theorem scattered_gathers_frontier :
    Reachable scattered ∧ (collect scattered { filename := "index.marko" }).error = none ∧
      (collect scattered { filename := "index.marko" }).state.roots =
        { nodes := [2, 3], idCount := 2, idNode := some 5, id := some (.text "look") } ∧
      (collect scattered { filename := "index.marko" }).state.document.marked = false := by
  have built : Reachable scattered :=
    .detach (.append (reachable_ofTemplate _) (by decide) ⟨by decide, rfl, rfl⟩) (by decide)
  have wf := wellFormed_of_reachable built
  have inner : scattered.children 0 = [1, 3] ∧ scattered.children 1 = [2, 5] := by decide +kernel
  have kinds : (scattered.node 0).kind.isWrapper ∧ (scattered.node 1).kind.isWrapper := by
    decide +kernel
  have tagged : ∀ id ∈ [2, 3, 5], (scattered.node id).kind.isWrapper = false := by decide +kernel
  have frontier : scattered.frontier = [0, 1, 2, 5, 3] := by
    simp [Tree.frontier, listing_eq wf, inner, kinds, tagged]
  have ok : (collect scattered { filename := "index.marko" }).error = none := by
    rw [collect_eq_sweep (wellFormed_of_reachable built), frontier]
    decide +kernel
  obtain ⟨roots, -, marked⟩ := collect_gathers_frontier scattered _ built ok
  rw [frontier] at roots marked
  refine ⟨built, ok, ?_, ?_⟩
  · rw [roots]
    decide +kernel
  · rw [marked]
    decide +kernel

end TemplateWiring.Roots
