import TemplateWiring.Proofs.Tree.Edits
import TemplateWiring.Proofs.Tree.Nested
import TemplateWiring.Template.Walk

/-! How deep a recursion over the links of a tree goes. Here every link is followed, wherever it
leads, and a recursion that would have to go deeper than it may has no result. In a tree that the
operations build, the number of nodes is always deep enough. -/

namespace TemplateWiring

namespace Tree

variable {t : Tree}

def nestedTo (t : Tree) : (depth id : Nat) → Option Template
  | 0, _ => none
  | depth + 1, id =>
    let children := (t.children id).filter fun child => !t.isDetached child
    (children.mapM (nestedTo t depth)).map (t.node id).template

theorem mapM_eq_some {α β : Type} {f : α → Option β} {g : α → β} (list : List α)
    (each : ∀ a ∈ list, f a = some (g a)) : list.mapM f = some (list.map g) := by
  induction list with
  | nil => rfl
  | cons a rest ih =>
      rw [List.mapM_cons, each a List.mem_cons_self,
        ih (fun b member => each b (List.mem_cons_of_mem _ member))]
      rfl

theorem nestedTo_eq (wf : WellFormed t) (depth : Nat) : ∀ id < t.size, t.size ≤ id + depth →
    nestedTo t depth id = some (nested t id) := by
  induction depth with
  | zero =>
      intro id inside deep
      omega
  | succ depth ih =>
      intro id inside deep
      have present : (t.children id).filter (fun child => !t.isDetached child) = t.children id := by
        apply List.filter_eq_self.mpr
        intro child member
        simp [wf.child_present member]
      have below : (t.children id).mapM (nestedTo t depth) =
          some ((t.children id).map (nested t)) := by
        apply mapM_eq_some
        intro child member
        have upward := wf.child_above member
        exact ih child (wf.child_inside member) (by omega)
      rw [nestedTo, present, below, nested_eq wf]
      rfl

end Tree

namespace Walk

open TemplateWiring.Tree

variable {σ ε : Type}

/-- A visitor that leaves a tree of its own making behind. -/
abbrev Editor (σ ε : Type) := σ → Tree → Nat → σ × Tree × Verdict ε

def editor (visit : Visitor σ ε) : Editor σ ε := fun s t id =>
  ((visit s t id).state, t.detachAll (visit s t id).detach, (visit s t id).verdict)

/-- Enters the nodes of a list in turn, without those that are detached by then, up to the first
error. -/
def enterEach (enter : σ → Tree → Nat → Option (Walk σ ε)) (s : σ) (t : Tree) :
    List Nat → Option (Walk σ ε)
  | [] => some ⟨s, t, none⟩
  | c :: cs =>
    if t.isDetached c then enterEach enter s t cs
    else
      match enter s t c with
      | none => none
      | some w =>
        match w.error with
        | some e => some ⟨w.state, w.tree, some e⟩
        | none => enterEach enter w.state w.tree cs

def enterTo (visit : Editor σ ε) : (depth : Nat) → σ → Tree → Nat → Option (Walk σ ε)
  | 0, _, _, _ => none
  | depth + 1, s, t, id =>
    match visit s t id with
    | (s, t, .fail e) => some ⟨s, t, some e⟩
    | (s, t, .prune) => some ⟨s, t, none⟩
    | (s, t, .descend) => enterEach (enterTo visit depth) s t (t.children id)

/-- What a visitor makes of a tree with a certain property has the property and as many nodes. -/
def Keeps (P : Tree → Prop) (visit : Editor σ ε) : Prop :=
  ∀ s t id, P t → id < t.size →
    P (visit s t id).2.1 ∧ (visit s t id).2.1.size = t.size

variable {P : Tree → Prop} {visit : Editor σ ε}

theorem enterEach_ends {enter : σ → Tree → Nat → Option (Walk σ ε)} {size : Nat}
    (children : List Nat)
    (each : ∀ child ∈ children, ∀ s t, P t → t.size = size →
      ∃ w, enter s t child = some w ∧ P w.tree ∧ w.tree.size = size)
    (s : σ) (t : Tree) (holds : P t) (same : t.size = size) :
    ∃ w, enterEach enter s t children = some w ∧ P w.tree ∧ w.tree.size = size := by
  induction children generalizing s t with
  | nil => exact ⟨_, rfl, holds, same⟩
  | cons child rest ih =>
      have tail := ih (fun other member => each other (List.mem_cons_of_mem _ member))
      rw [enterEach]
      by_cases gone : t.isDetached child = true
      · rw [if_pos gone]
        exact tail s t holds same
      · obtain ⟨w, entered, kept, size⟩ := each child List.mem_cons_self s t holds same
        rw [if_neg gone, entered]
        dsimp only
        cases w.error with
        | some e => exact ⟨_, rfl, kept, size⟩
        | none => exact tail w.state w.tree kept size

theorem enterTo_ends (shaped : ∀ t, P t → WellFormed t) (keeps : Keeps P visit) (depth : Nat) :
    ∀ s t id, P t → id < t.size → t.size ≤ id + depth →
      ∃ w, enterTo visit depth s t id = some w ∧ P w.tree ∧ w.tree.size = t.size := by
  induction depth with
  | zero =>
      intro s t id holds inside deep
      omega
  | succ depth ih =>
      intro s t id holds inside deep
      obtain ⟨kept, size⟩ := keeps s t id holds inside
      rw [enterTo]
      generalize visit s t id = visited at kept size
      obtain ⟨s', u, verdict⟩ := visited
      cases verdict with
      | fail e => exact ⟨_, rfl, kept, size⟩
      | prune => exact ⟨_, rfl, kept, size⟩
      | descend =>
          dsimp only at kept size ⊢
          rw [← size]
          apply enterEach_ends (u.children id) _ s' u kept rfl
          -- The children are those of the tree at this moment; what happens to it before their
          -- turn does not change their numbers.
          intro child member s w holds same
          have upward := (shaped u kept).child_above member
          have bound := (shaped u kept).child_inside member
          obtain ⟨w', entered, kept', size'⟩ := ih s w child holds (by omega) (by omega)
          exact ⟨w', entered, kept', size'.trans same⟩

theorem keeps_editor (visit : Visitor σ ε) : Keeps WellFormed (editor visit) := by
  intro s t id wf _
  exact ⟨wellFormed_detachAll wf _, size_detachAll t _⟩

theorem enterEach_eq {visit : Visitor σ ε} {size depth id : Nat} (children : List Nat)
    (inside : ∀ child ∈ children, id < child ∧ child < size)
    (each : ∀ child ∈ children, ∀ s t, WellFormed t → t.size = size →
      enterTo (editor visit) depth s t child = some (enter visit size s t child) ∧
        WellFormed (enter visit size s t child).tree ∧
        (enter visit size s t child).tree.size = size)
    (s : σ) (t : Tree) (wf : WellFormed t) (same : t.size = size) :
    enterEach (enterTo (editor visit) depth) s t children =
      some (enterAll visit size s t id children) := by
  induction children generalizing s t with
  | nil => rw [enterEach, enterAll]
  | cons child rest ih =>
      have tail := ih (fun other member => inside other (List.mem_cons_of_mem _ member))
        (fun other member => each other (List.mem_cons_of_mem _ member))
      rw [enterEach, enterAll]
      by_cases gone : t.isDetached child = true
      · rw [if_pos gone, if_pos gone]
        exact tail s t wf same
      · obtain ⟨entered, wf', size'⟩ := each child List.mem_cons_self s t wf same
        rw [if_neg gone, if_neg gone, dif_pos (inside child List.mem_cons_self), entered]
        dsimp only
        cases (enter visit size s t child).error with
        | some e => rfl
        | none => exact tail _ _ wf' size'

/-- Following every link is following those that lead to greater numbers. -/
theorem enterTo_eq (visit : Visitor σ ε) (depth : Nat) :
    ∀ s t id, WellFormed t → id < t.size → t.size ≤ id + depth →
      enterTo (editor visit) depth s t id = some (enter visit t.size s t id) := by
  induction depth with
  | zero =>
      intro s t id wf inside deep
      omega
  | succ depth ih =>
      intro s t id wf inside deep
      have wf' := wellFormed_detachAll wf (visit s t id).detach
      have size := size_detachAll t (visit s t id).detach
      rw [enterTo, enter, editor]
      cases (visit s t id).verdict with
      | fail e => rfl
      | prune => rfl
      | descend =>
          apply enterEach_eq
          · intro child member
            have bound := wf'.child_inside member
            exact ⟨wf'.child_above member, by omega⟩
          · intro child member s u wf same
            have upward := wf'.child_above member
            have bound := wf'.child_inside member
            obtain ⟨w, ended, kept, size'⟩ := enterTo_ends (fun _ wf => wf) (keeps_editor visit)
              depth s u child wf (by omega) (by omega)
            have equal := ih s u child wf (by omega) (by omega)
            rw [same] at equal
            rw [equal, Option.some.injEq] at ended
            rw [ended]
            exact ⟨equal.trans (congrArg some ended), kept, size'.trans same⟩
          · exact wf'
          · exact size

/-- On entering a node the visitor detaches nodes and writes attributes of nodes that exist, and
adds none. -/
def Trims (visit : Editor σ ε) : Prop :=
  ∀ s t id, Reachable t → id < t.size →
    ∃ edits : List Edit, (∀ edit ∈ edits, edit.adds = false) ∧ Edited t edits (visit s t id).2.1

theorem keeps_of_trims (trims : Trims visit) : Keeps Reachable visit := by
  intro s t id built inside
  obtain ⟨edits, keep, edited⟩ := trims s t id built inside
  exact ⟨reachable_edited edited built, size_edited edited keep⟩

/-- Whatever is done to a tree that was empty or was built from a template, its links stay in shape,
and following them comes to an end: no recursion goes deeper than there are nodes, be it to write
the tree nested or to show it to a visitor that adds nothing. -/
theorem edited_links_and_walks (start t : Tree) (edits : List Edit)
    (origin : start = empty ∨ ∃ τ, start = ofTemplate τ) (edited : Edited start edits t) :
    Linkage t ∧ nestedTo t t.size 0 = some t.toTemplate ∧
      (∀ (σ ε : Type) (visit : Editor σ ε) (s : σ), Trims visit →
        ∃ w, enterTo visit t.size s t 0 = some w) ∧
      ∀ (σ ε : Type) (visit : Visitor σ ε) (s : σ),
        enterTo (editor visit) t.size s t 0 = some (run visit s t) := by
  have first : Reachable start := by
    rcases origin with rfl | ⟨τ, rfl⟩
    · exact .empty
    · exact reachable_ofTemplate τ
  have built := reachable_edited edited first
  have wf := wellFormed_of_reachable built
  have deep : t.size ≤ 0 + t.size := Nat.le_of_eq (Nat.zero_add _).symm
  refine ⟨wf.linkage, ?_, ?_, ?_⟩
  · rw [toTemplate_eq wf]
    exact nestedTo_eq wf t.size 0 wf.rooted deep
  · intro σ ε visit s trims
    obtain ⟨w, ended, -, -⟩ := enterTo_ends (fun _ => wellFormed_of_reachable)
      (keeps_of_trims trims) t.size s t 0 built wf.rooted deep
    exact ⟨w, ended⟩
  · intro σ ε visit s
    exact enterTo_eq visit t.size s t 0 wf wf.rooted deep

def prunedEdits : List Edit :=
  [.detach 1, .detach 3, .detach 1, .append 1 { kind := .element, tag := some "p" },
    .append 0 { kind := .custom, tag := some "app-tab" }, .setAttr 5 "key" (.text "k")]

def prunedPage : Template :=
  .container [.element .html "div" [] [.element .custom "app-row" [] [] 2 none] 1 none] 0

def prunedTree : Tree := prunedEdits.foldl Edit.apply (ofTemplate prunedPage)

def harvester : Editor (List Nat) Unit := fun seen t id =>
  (seen ++ [id], (if id + 1 < t.size then t.detach (id + 1) else t).setAttr id "seen" .bare,
    .descend)

theorem harvester_trims : Trims harvester := by
  intro seen t id _ inside
  by_cases next : id + 1 < t.size
  · refine ⟨[.detach (id + 1), .setAttr id "seen" .bare], by simp [Edit.adds], ?_⟩
    simp only [harvester, if_pos next]
    refine .cons next (.cons ?_ (.nil _))
    simpa [Edit.Fits, Edit.apply] using inside
  · refine ⟨[.setAttr id "seen" .bare], by simp [Edit.adds], ?_⟩
    simp only [harvester, if_neg next]
    exact .cons inside (.nil _)

theorem prunedTree_links_and_walks :
    Edited (ofTemplate prunedPage) prunedEdits prunedTree ∧ prunedTree.size = 6 ∧
      Linkage prunedTree ∧ nestedTo prunedTree 6 0 = some prunedTree.toTemplate ∧
      ∃ w, enterTo harvester 6 [] prunedTree 0 = some w := by
  have edited : Edited (ofTemplate prunedPage) prunedEdits prunedTree := by
    have size : (ofTemplate prunedPage).size = 4 := by decide
    have new (kind : NodeKind) (tag : String) (tagged : kind ≠ .root) :
        Node.Fresh { kind := kind, tag := some tag } := ⟨tagged, rfl, rfl⟩
    refine .cons ?_ (.cons ?_ (.cons ?_ (.cons ⟨?_, new _ _ (by decide)⟩
      (.cons ⟨?_, new _ _ (by decide)⟩ (.cons ?_ (.nil _))))))
    all_goals simp [Edit.Fits, Edit.apply, size]
  have size : prunedTree.size = 6 := by decide
  obtain ⟨linkage, nested, walks, -⟩ := edited_links_and_walks _ _ _ (.inr ⟨prunedPage, rfl⟩) edited
  rw [size] at nested walks
  exact ⟨edited, size, linkage, nested, walks _ _ harvester [] harvester_trims⟩

end Walk

end TemplateWiring
