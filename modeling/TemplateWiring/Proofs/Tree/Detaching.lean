import Mathlib.Data.Finset.Dedup
import Mathlib.Data.Finset.Insert
import TemplateWiring.Proofs.Template.Normal

namespace TemplateWiring.Tree

variable {t : Tree}

theorem detachAll_congr (wf : WellFormed t) (first second : List Nat)
    (same : ∀ id, id ∈ first ↔ id ∈ second) : t.detachAll first = t.detachAll second := by
  apply eq_of_nodes
  · rw [size_detachAll, size_detachAll]
  · intro id
    apply Node.eq_of_links
    · rw [content_detachAll, content_detachAll]
    · change (t.detachAll first).children id = (t.detachAll second).children id
      rw [wf.children_detachAll, wf.children_detachAll]
      simp only [same]
    · simp only [parent_detachAll, same]
    · change (t.detachAll first).isDetached id = (t.detachAll second).isDetached id
      simp only [detached_detachAll, same]

def holds (t : Tree) (ids : Finset Nat) (place : Nat) : Bool :=
  t.documentOrder[place]?.any (· ∈ ids)

theorem counted_documentOrder (wf : WellFormed t) :
    Counted t.documentOrder.idxOf 0 (t.subtree 0) := by
  have distinct : t.documentOrder.Nodup := listing_nodup wf 0
  rw [Counted, ← List.range_eq_range']
  apply List.ext_getElem
  · simp
  · intro place inside _
    rw [List.getElem_map, List.getElem_range]
    exact distinct.idxOf_getElem place _

theorem holds_idxOf {id : Nat} (member : id ∈ t.documentOrder) (ids : Finset Nat) :
    t.holds ids (t.documentOrder.idxOf id) = decide (id ∈ ids) := by
  have inside := List.idxOf_lt_length_of_mem member
  rw [holds, List.getElem?_eq_getElem inside, List.getElem_idxOf inside]
  rfl

theorem toTemplate_detachAll (wf : WellFormed t) {ids : Finset Nat} {order : List Nat}
    (all : order.toFinset = ids) :
    (t.detachAll order).toTemplate = t.toTemplate.strip (t.holds ids) 0 := by
  have named : ∀ id ∈ t.subtree 0,
      t.holds ids (t.documentOrder.idxOf id) = decide (id ∈ order) := by
    intro id member
    rw [holds_idxOf member, ← all]
    simp
  rw [toTemplate_eq wf, toTemplate_eq (wellFormed_detachAll wf order)]
  exact nested_detachAll wf 0 0 (counted_documentOrder wf) named

theorem documentOrder_detachAll (wf : WellFormed t) {ids : Finset Nat} {order : List Nat}
    (rooted : 0 ∉ ids) (all : order.toFinset = ids) :
    (t.detachAll order).documentOrder =
      t.documentOrder.filter fun id =>
        ∀ leaver ∈ ids, leaver ∈ t.documentOrder → id ∉ t.subtree leaver := by
  rw [documentOrder, subtree, listing_detachAll wf]
  apply List.filter_congr
  intro id _
  rw [decide_eq_decide]
  subst all
  constructor
  · intro remains leaver member linked
    have ne : leaver ≠ 0 := fun top => rooted (top ▸ member)
    exact remains leaver (List.mem_toFinset.mp member) ne linked
  · intro remains leaver member _ linked
    exact remains leaver (List.mem_toFinset.mpr member) linked

/-- Detaching a node again changes nothing, and of two nodes either may leave first. However some
nodes leave, the template, which lists the linked nodes in document order, loses those among them
with all that stands below them, and what is left stays in its order. -/
theorem detaching_commutes (t : Tree) (built : Reachable t) :
    (∀ a, (t.detach a).detach a = t.detach a) ∧
      (∀ a b, (t.detach a).detach b = (t.detach b).detach a) ∧
      t.toTemplate.preorder = t.documentOrder.map (nested t) ∧
      ∀ (ids : Finset Nat) (order : List Nat), 0 ∉ ids → order.toFinset = ids →
        (t.detachAll order).toTemplate = t.toTemplate.strip (t.holds ids) 0 ∧
        (t.detachAll order).documentOrder =
          t.documentOrder.filter fun id =>
            ∀ leaver ∈ ids, leaver ∈ t.documentOrder → id ∉ t.subtree leaver := by
  have wf := wellFormed_of_reachable built
  refine ⟨?_, ?_, ?_, ?_⟩
  · intro a
    exact detachAll_congr wf [a, a] [a] (by simp)
  · intro a b
    exact detachAll_congr wf [a, b] [b, a] (by simp [or_comm])
  · rw [toTemplate_eq wf]
    exact preorder_nested wf 0
  · intro ids order rooted all
    exact ⟨toTemplate_detachAll wf all, documentOrder_detachAll wf rooted all⟩

def fencedPage : Template :=
  .root [
    .container [
      .element .html "div" [] [.element .html "b" [] [] 3 none] 2 none,
      .element .html "style" [] [] 4 none] 1,
    .element .html "p" [] [] 5 none,
    .element .html "span" [] [.element .html "i" [] [] 7 none] 6 none,
    .element .custom "app-tab" [] [] 8 none]

theorem fencedPage_detached :
    let t := (ofTemplate fencedPage).detach 5
    Reachable t ∧ (t.detach 7).detach 7 = t.detach 7 ∧
      (t.detach 3).detach 1 = (t.detach 1).detach 3 ∧
      (t.detachAll [7, 3, 1, 5]).toTemplate =
        .root [.element .html "span" [] [] 6 none, .element .custom "app-tab" [] [] 8 none] ∧
      (t.detachAll [7, 3, 1, 5]).documentOrder = [0, 6, 8] := by
  intro t
  have built : Reachable t := .detach (reachable_ofTemplate fencedPage) (by decide +kernel)
  have wf := wellFormed_of_reachable built
  obtain ⟨twice, either, -, several⟩ := detaching_commutes t built
  obtain ⟨template, order⟩ := several {7, 3, 1, 5} [7, 3, 1, 5] (by decide) (by decide)
  have links : t.children 0 = [1, 6, 8] ∧ t.children 1 = [2, 4] ∧ t.children 2 = [3] ∧
      t.children 6 = [7] ∧ ∀ id ∈ [3, 4, 7, 8], t.children id = [] := by decide +kernel
  have whole : t.documentOrder = [0, 1, 2, 3, 4, 6, 7, 8] := by
    simp [documentOrder, subtree_eq wf, links]
  have before : t.toTemplate = .root [
      .container [
        .element .html "div" [] [.element .html "b" [] [] 3 none] 2 none,
        .element .html "style" [] [] 4 none] 1,
      .element .html "span" [] [.element .html "i" [] [] 7 none] 6 none,
      .element .custom "app-tab" [] [] 8 none] := by
    rw [toTemplate_eq wf]
    simp only [nested_eq wf, links, List.map]
    rfl
  have holds : t.holds {7, 3, 1, 5} = fun place =>
      [0, 1, 2, 3, 4, 6, 7, 8][place]?.any (· ∈ ({7, 3, 1, 5} : Finset Nat)) := by
    rw [← whole]
    rfl
  refine ⟨built, twice 7, either 3 1, ?_, ?_⟩
  · rw [template, before, holds]
    rfl
  · have under : t.subtree 1 = [1, 2, 3, 4] ∧ t.subtree 3 = [3] ∧ t.subtree 7 = [7] := by
      simp [subtree_eq wf, links]
    rw [order, whole]
    simp [under]

end TemplateWiring.Tree
