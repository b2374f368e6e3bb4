import Mathlib.Data.List.Basic
import TemplateWiring.Proofs.Roots.Reports

namespace TemplateWiring

theorem Document.eq_of_slots {d e : Document} (filename : d.filename = e.filename)
    (options : d.options = e.options) (slots : d.slots = e.slots) (marked : d.marked = e.marked)
    (dependencies : d.dependencies = e.dependencies)
    (diagnostics : d.diagnostics = e.diagnostics) : d = e := by
  cases d
  cases e
  simp_all [Document.slots]

namespace Roots

open TemplateWiring.Tree

/-- A search reports what is wrong with the nodes that stay, judged by what the document has come
to in the end. -/
theorem sweep_diagnostics (t : Tree) (ids : List Nat) (s : Search) (gone : List Nat)
    (distinct : ids.Nodup) (apart : ∀ id ∈ ids, id ∉ gone)
    (ok : (Walk.sweep visit t s gone ids).error = none) :
    let w := Walk.sweep visit t s gone ids
    w.state.document.diagnostics = s.document.diagnostics ++
      (ids.filter (· ∉ w.gone)).filterMap fun id => complaint? w.state.document (t.node id) id := by
  induction ids generalizing s gone with
  | nil => simp [Walk.sweep]
  | cons id rest ih =>
      obtain ⟨new, distinct⟩ := List.nodup_cons.mp distinct
      have step := visit_step s t id
      have yield := step_yield step
      have own := visit_local.detaches s t id
      have unfolded := Walk.sweep_cons s gone id rest ok
      rw [unfolded] at ok ⊢
      have apart_later : ∀ other ∈ rest, other ∉ gone ++ (visit s t id).detach := by
        intro other member left
        rcases List.mem_append.mp left with old | here
        · exact apart other (List.mem_cons_of_mem _ member) old
        · exact new (own other here ▸ member)
      have tail := ih _ _ distinct apart_later ok
      have left := Walk.gone_sweep visit_local (t := t) (visit s t id).state
        (gone ++ (visit s t id).detach) rest id
      have leaving := (sweep_leaving rest _ _ ok).gone id
      have follows := (follows_yield yield).trans
        (follows_sweep t rest (visit s t id).state (gone ++ (visit s t id).detach))
      dsimp only at tail ⊢
      rw [tail, diagnostics_step step, List.append_assoc]
      congr 1
      generalize Walk.sweep visit t (visit s t id).state (gone ++ (visit s t id).detach) rest = w
        at left leaving follows
      -- A node that stays is judged by the end as it was in its turn; one that leaves told nothing.
      by_cases stays : (visit s t id).detach = []
      · have settled : s.document.renderer = none →
            behavior? s.document.options (t.node id) = none := by
          cases yield with
          | nothing _ _ _ object => exact object
          | style _ _ _ _ detach => simp [stays] at detach
          | object _ _ _ _ detach => simp [stays] at detach
        have remains : id ∉ w.gone := by
          intro among
          rcases left among with old | later
          · rw [stays, List.append_nil] at old
            exact apart id List.mem_cons_self old
          · exact new later
        rw [List.filter_cons_of_pos (by simpa using remains), List.filterMap_cons,
          complaint?_later follows settled]
        cases complaint? s.document (t.node id) id <;> rfl
      · have leaves : id ∈ w.gone := by
          obtain ⟨other, member⟩ := List.exists_mem_of_ne_nil _ stays
          have here := own other member ▸ member
          exact leaving.mpr (.inl (List.mem_append_right gone here))
        rw [List.filter_cons_of_neg (by simpa using leaves), complaint?_of_detach step stays]
        rfl

/-- Once no renderer is known in the end, no class could become one. -/
theorem behavior?_left {t : Tree} {ids : List Nat} {s : Search} {gone : List Nat}
    (ok : (Walk.sweep visit t s gone ids).error = none)
    (vacant : (Walk.sweep visit t s gone ids).state.document.renderer = none) :
    ∀ id ∈ ids, behavior? s.document.options (t.node id) = none := by
  have slots := congrArg (·.2.1) (sweep_slots t ids s gone ok)
  have none : (installFirst s.document (ids.map t.node)).renderer = none := slots.symm.trans vacant
  rw [installFirst] at none
  split at none
  next other known => simp [known] at none
  next =>
    split at none
    next => cases none
    next idle =>
      rw [List.findSome?_eq_none_iff] at idle
      exact fun id member => idle _ (List.mem_map_of_mem member)

theorem installFirst_idle {d : Document} {ns : List Node}
    (idle : d.renderer = none → ∀ n ∈ ns, behavior? d.options n = none) :
    installFirst d ns = d := by
  cases slot : d.renderer with
  | some other => exact installFirst_taken slot ns
  | none => rw [installFirst, slot, List.findSome?_eq_none_iff.mpr (idle slot)]

theorem Leaving.free {t : Tree} {d : Document} {ids : List Nat} {w : Walk.Swept Search Failure}
    (leaving : Leaving t d [] ids w) {id : Nat} (left : id ∈ w.gone) :
    bindsItself d.options (t.node id) = false ∧
      ((t.node id).kind = .element → (t.node id).isTag "style" = true) := by
  rcases (leaving.gone id).mp left with old | style | class_
  · cases old
  · have block := (List.mem_filter.mp style).2
    rw [styleBlock?] at block
    split at block
    next held =>
      simp only [Bool.and_eq_true, Bool.not_eq_true'] at held
      exact ⟨held.1.2, fun _ => held.2⟩
    next => cases block
  · rw [inlineClass?] at class_
    split at class_
    · have object : (behavior? d.options (t.node id)).isSome = true := by
        simpa using List.find?_some class_
      rw [behavior?] at object
      split at object
      next held =>
        simp only [Bool.and_eq_true, beq_iff_eq] at held
        simp [bindsItself, held.1]
      next => cases object
    · cases class_

section again

variable {t : Tree} {d : Document} {ids : List Nat} {w : Walk.Swept Search Failure}

theorem options_swept (swept : Walk.sweep visit t { document := d } [] ids = w)
    (ok : w.error = none) : w.state.document.options = d.options := by
  subst swept
  exact (sweep_roots ids { document := d } [] ok).2.2

theorem settled_swept (swept : Walk.sweep visit t { document := d } [] ids = w)
    (ok : w.error = none) (id : Nat) (stays : id ∈ ids.filter (· ∉ w.gone)) :
    styleBlock? w.state.document.options (t.node id) = none ∧
      (w.state.document.renderer = none →
        behavior? w.state.document.options (t.node id) = none) := by
  rw [options_swept swept ok]
  subst swept
  obtain ⟨member, remains⟩ := List.mem_filter.mp stays
  have leaving := sweep_leaving ids { document := d } [] ok
  constructor
  · cases block : styleBlock? d.options (t.node id) with
    | none => rfl
    | some found =>
        have tag : id ∈ styleTags d.options t ids := List.mem_filter.mpr ⟨member, by simp [block]⟩
        have left := (leaving.gone id).mpr (.inr (.inl tag))
        simp [left] at remains
  · exact fun vacant => behavior?_left ok vacant id member

theorem resweep_error (swept : Walk.sweep visit t { document := d } [] ids = w)
    (ok : w.error = none) :
    (Walk.sweep visit t { document := w.state.document } [] (ids.filter (· ∉ w.gone))).error =
      none := by
  have options := options_swept swept ok
  subst swept
  rw [sweep_error, List.findSome?_eq_none_iff] at ok ⊢
  intro n member
  rw [options]
  exact ok n (List.map_subset _ List.filter_sublist.subset member)

theorem resweep_gone (swept : Walk.sweep visit t { document := d } [] ids = w)
    (ok : w.error = none) :
    (Walk.sweep visit t { document := w.state.document } [] (ids.filter (· ∉ w.gone))).gone =
      [] := by
  have leaving := sweep_leaving _ _ _ (resweep_error swept ok)
  rw [List.eq_nil_iff_forall_not_mem]
  intro id left
  rcases (leaving.gone id).mp left with old | style | class_
  · cases old
  · obtain ⟨member, block⟩ := List.mem_filter.mp style
    simp [(settled_swept swept ok _ member).1] at block
  · rw [inlineClass?] at class_
    split at class_
    next vacant =>
      have member := List.mem_of_find?_eq_some class_
      have idle := (settled_swept swept ok _ member).2 (Option.isNone_iff_eq_none.mp vacant)
      have object := List.find?_some class_
      simp [idle] at object
    next => cases class_

/-- A second search adds to the document what the first has reported, and nothing else. -/
theorem resweep_document (distinct : ids.Nodup)
    (swept : Walk.sweep visit t { document := d } [] ids = w) (ok : w.error = none) :
    ∃ reports, w.state.document.diagnostics = d.diagnostics ++ reports ∧
      (Walk.sweep visit t { document := w.state.document } []
        (ids.filter (· ∉ w.gone))).state.document =
        { w.state.document with diagnostics := w.state.document.diagnostics ++ reports } := by
  have first := sweep_diagnostics t ids { document := d } [] distinct (by simp) (swept ▸ ok)
  have marked := (sweep_roots ids { document := d } [] (swept ▸ ok)).2.1
  rw [swept] at first marked
  have ok2 := resweep_error swept ok
  have gone := resweep_gone swept ok
  have settled := settled_swept swept ok
  have options := options_swept swept ok
  refine ⟨_, first, ?_⟩
  generalize stay : ids.filter (· ∉ w.gone) = kept at *
  have second := sweep_diagnostics t kept { document := w.state.document } []
    (stay ▸ distinct.filter _) (by simp) ok2
  have slots := sweep_slots t kept _ [] ok2
  have leaving := sweep_leaving kept _ [] ok2
  have roots := sweep_roots kept _ [] ok2
  have follows := follows_sweep t kept { document := w.state.document } []
  generalize Walk.sweep visit t { document := w.state.document } [] kept = again at *
  dsimp only at second slots roots follows
  apply Document.eq_of_slots
  · exact follows.filename
  · exact follows.options
  · rw [slots, installFirst_idle]
    · rfl
    · intro vacant n member
      obtain ⟨id, among, rfl⟩ := List.mem_map.mp member
      exact (settled id among).2 vacant
  · have held : (kept.any fun id => bindsItself d.options (t.node id)) = true →
        (ids.any fun id => bindsItself d.options (t.node id)) = true := by
      simp only [List.any_eq_true]
      rintro ⟨id, among, own⟩
      exact ⟨id, List.filter_sublist.subset (stay ▸ among), own⟩
    rw [roots.2.1, marked, options, Bool.or_assoc, Bool.or_eq_left_iff_imp.mpr held]
  · have none : styleDependencies w.state.document t kept = [] := by
      rw [styleDependencies, List.filterMap_eq_nil_iff]
      intro id among
      rw [styleDependency?, (settled id among).1]
      rfl
    rw [leaving.dependencies, none, List.append_nil]
  · have same : ∀ id ∈ kept, complaint? again.state.document (t.node id) id =
        complaint? w.state.document (t.node id) id :=
      fun id among => complaint?_later follows (settled id among).2
    have all : kept.filter (· ∉ again.gone) = kept := by
      rw [gone]
      simp
    rw [second, all, List.filterMap_congr same]

end again

/-- The style tags with an `id` that have left between two states of a tree. -/
def takenStyles (before after : Tree) : List Nat :=
  (List.range before.size).filter fun id =>
    !before.isDetached id && after.isDetached id && (before.node id).kind == .element &&
      (before.node id).isTag "style" && before.hasAttr id "id"

variable {t : Tree} {d : Document} {w : Walk.Swept Search Failure}

theorem length_takenStyles (wf : WellFormed t) (leaving : Leaving t d [] t.frontier w) :
    ((identified d.options t t.frontier).filter (· ∈ w.gone)).length =
      (takenStyles t (t.detachAll w.gone)).length := by
  have frontier := (frontier_nodup wf).filter fun id => isIdentified d.options (t.node id)
  have range := List.nodup_range (n := t.size)
  refine ((List.perm_ext_iff_of_nodup (frontier.filter _) (range.filter _)).mpr ?_).length_eq
  intro id
  simp only [List.mem_filter, List.mem_range, detached_detachAll, isIdentified,
    Tree.hasAttr, Bool.and_eq_true, Bool.or_eq_true, Bool.not_eq_true', beq_iff_eq,
    decide_eq_true_eq]
  constructor
  · rintro ⟨⟨member, ⟨kind, free⟩, named⟩, left⟩
    have inside := frontier_inside wf id member
    have top : id ≠ 0 := by
      intro same
      have root := (wf.top id inside).mpr same
      rw [root] at kind
      cases kind
    have present : t.isDetached id = false := by
      have reached := (mem_frontier wf id).mp member
      cases reached with
      | root => exact absurd rfl top
      | child _ _ member => exact wf.child_present member
    exact ⟨inside, ⟨⟨⟨present, .inr ⟨left, inside⟩⟩, kind⟩, (leaving.free left).2 kind⟩, named⟩
  · rintro ⟨inside, ⟨⟨⟨present, gone⟩, kind⟩, tag⟩, named⟩
    have left : id ∈ w.gone := by
      rcases gone with old | left
      · rw [present] at old
        cases old
      · exact left.1
    exact ⟨⟨(leaving.not_root left).1, ⟨kind, (leaving.free left).1⟩, named⟩, left⟩

/-- A search of what a search has left finds the same roots and changes nothing but the reports, to
which it adds the same once more. It does not meet the style tags that have left. -/
theorem collect_again (t : Tree) (d : Document) (built : Reachable t)
    (ok : (collect t d).error = none) :
    let first := collect t d
    let second := collect first.tree first.state.document
    second.error = none ∧
      second.state.roots.nodes = first.state.roots.nodes ∧
      second.state.roots.legacyBind = first.state.roots.legacyBind ∧
      first.state.roots.idCount =
        second.state.roots.idCount + (takenStyles t first.tree).length ∧
      second.tree = first.tree ∧
      ∃ reports, first.state.document.diagnostics = d.diagnostics ++ reports ∧
        second.state.document =
          { first.state.document with
            diagnostics := first.state.document.diagnostics ++ reports } := by
  have wf := wellFormed_of_reachable built
  rw [collect_eq_sweep wf] at ok ⊢
  have distinct := frontier_nodup wf
  have leaving := sweep_leaving t.frontier { document := d } [] ok
  have roots := (sweep_roots t.frontier { document := d } [] ok).1
  generalize swept : Walk.sweep visit t { document := d } [] t.frontier = w at ok leaving roots ⊢
  change w.error = none at ok
  dsimp only [Walk.Swept.walk] at leaving roots ⊢
  have frontier := frontier_detachAll wf fun id left => (leaving.not_root left).2.1
  rw [collect_eq_sweep (wellFormed_detachAll wf w.gone), frontier,
    Walk.sweep_congr visit_local (t := t) _ (fun id _ => content_detachAll t w.gone id)]
  have ok2 := resweep_error swept ok
  have roots2 := (sweep_roots _ _ _ ok2).1
  have gone := resweep_gone swept ok
  have document := resweep_document distinct swept ok
  have options := options_swept swept ok
  generalize Walk.sweep visit t { document := w.state.document } []
    (t.frontier.filter (· ∉ w.gone)) = again at *
  rw [empty_merge] at roots roots2
  dsimp only [Walk.Swept.walk] at *
  rw [options] at roots2
  rw [roots, roots2, gone]
  refine ⟨ok2, ?_, ?_, ?_, rfl, document⟩
  · dsimp only [gather]
    rw [List.filter_filter]
    apply List.filter_congr
    intro id _
    by_cases left : id ∈ w.gone
    · simp [left, (leaving.not_root left).2.2]
    · simp [left]
  · dsimp only [gather]
    rw [List.any_filter]
    congr 1
    funext id
    by_cases left : id ∈ w.gone
    · simp [left, (leaving.free left).1]
    · simp [left]
  · dsimp only [gather]
    rw [← length_takenStyles wf leaving,
      List.length_eq_length_filter_add (l := identified d.options t t.frontier) (· ∉ w.gone)]
    congr 2
    · simp only [identified, List.filter_filter, Bool.and_comm]
    · simp

def crowdedPage : Template :=
  .root [
    .element .html "style" [⟨"{ .a {} }", .bare⟩, ⟨"id", .text "look"⟩] [] 0 none,
    .container [.other (some "class") (some "class { onClick() {} }") [] 31] 30,
    .other (some "class") (some "class { onInput() {} }") [] 60,
    .element .html "style" [⟨"id", .bare⟩, ⟨"{ .b {} }", .bare⟩] [] 90 none,
    .element .html "div" [⟨"id", .text "main"⟩] [] 120 none]

theorem crowdedPage_again :
    let t := ofTemplate crowdedPage
    let first := collect t { filename := "index.marko" }
    let second := collect first.tree first.state.document
    first.error = none ∧ first.state.roots.idCount = 3 ∧ takenStyles t first.tree = [1] ∧
      first.state.document.diagnostics.length = 2 ∧ second.error = none ∧
      second.state.roots.nodes = [6] ∧ second.state.roots.idCount = 2 ∧
      second.tree = first.tree ∧ second.state.document.constants.length = 1 ∧
      second.state.document.diagnostics =
        first.state.document.diagnostics ++ first.state.document.diagnostics := by
  intro t first second
  have built : Reachable t := reachable_ofTemplate crowdedPage
  have found : first = (Walk.sweep visit t { document := { filename := "index.marko" } } []
      [0, 1, 2, 3, 4, 5, 6]).walk t := by
    have frontier : t.frontier = [0, 1, 2, 3, 4, 5, 6] :=
      (frontier_ofTemplate crowdedPage).trans (by decide +kernel)
    rw [← frontier]
    exact collect_eq_sweep (wellFormed_of_reachable built) _
  have ran : first.error = none ∧ first.state.roots.idCount = 3 ∧ first.state.roots.nodes = [6] ∧
      takenStyles t first.tree = [1] ∧ first.state.document.constants.length = 1 ∧
      first.state.document.diagnostics.length = 2 := by
    rw [found]
    decide +kernel
  obtain ⟨ok, ids, roots, taken, pooled, reported⟩ := ran
  obtain ⟨ok2, nodes, -, count, tree, reports, before, after⟩ :=
    collect_again t { filename := "index.marko" } built ok
  have all : reports = first.state.document.diagnostics := before.symm
  refine ⟨ok, ids, taken, reported, ok2, nodes.trans roots, ?_, tree, ?_, ?_⟩
  · have left : first.state.roots.idCount =
        second.state.roots.idCount + (takenStyles t first.tree).length := count
    rw [ids, taken] at left
    exact (Nat.succ.inj left).symm
  · exact (congrArg (·.constants.length) after).trans pooled
  · subst all
    exact congrArg (·.diagnostics) after

end Roots

end TemplateWiring
