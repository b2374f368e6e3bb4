import TemplateWiring.Proofs.Tree.Listing

namespace TemplateWiring.Tree

variable {t : Tree}

@[simp] theorem size_detachAll (t : Tree) (ids : List Nat) : (t.detachAll ids).size = t.size := by
  induction ids generalizing t with
  | nil => rfl
  | cons id rest ih => exact (ih (t.detach id)).trans (size_detach t id)

theorem detachAll_append (t : Tree) (first second : List Nat) :
    t.detachAll (first ++ second) = (t.detachAll first).detachAll second := List.foldl_append

@[simp] theorem content_detachAll (t : Tree) (ids : List Nat) (id : Nat) :
    ((t.detachAll ids).node id).content = (t.node id).content := by
  induction ids generalizing t with
  | nil => rfl
  | cons first rest ih => exact (ih (t.detach first)).trans (content_detach t first id)

theorem view_detachAll {α : Type} (view : Node → α) (t : Tree) (ids : List Nat) (id : Nat)
    (blind : ∀ n, view n.content = view n) :
    view ((t.detachAll ids).node id) = view (t.node id) := by
  rw [← blind, content_detachAll, blind]

theorem wellFormed_detachAll (wf : WellFormed t) (ids : List Nat) :
    WellFormed (t.detachAll ids) := by
  induction ids generalizing t with
  | nil => exact wf
  | cons id rest ih => exact ih (wellFormed_detach wf id)

theorem WellFormed.children_detachAll (wf : WellFormed t) (ids : List Nat) (id : Nat) :
    (t.detachAll ids).children id = (t.children id).filter (· ∉ ids) := by
  induction ids generalizing t with
  | nil => exact (List.filter_eq_self.mpr (fun _ _ => by simp)).symm
  | cons first rest ih =>
      change ((t.detach first).detachAll rest).children id = _
      rw [ih (wellFormed_detach wf first), wf.children_detach, List.filter_filter]
      apply List.filter_congr
      intro child _
      by_cases same : child = first <;> simp [same]

theorem detached_detachAll (t : Tree) (ids : List Nat) (id : Nat) :
    (t.detachAll ids).isDetached id = (t.isDetached id || decide (id ∈ ids ∧ id < t.size)) := by
  induction ids generalizing t with
  | nil => simp [detachAll]
  | cons first rest ih =>
      change ((t.detach first).detachAll rest).isDetached id = _
      rw [ih, detached_detach, size_detach, Bool.or_assoc]
      congr 1
      by_cases same : id = first <;> simp [same]

theorem parent_detachAll (t : Tree) (ids : List Nat) (id : Nat) :
    ((t.detachAll ids).node id).parent = if id ∈ ids then none else (t.node id).parent := by
  induction ids generalizing t with
  | nil => simp [detachAll]
  | cons first rest ih =>
      change (((t.detach first).detachAll rest).node id).parent = _
      rw [ih, parent_detach]
      by_cases same : id = first <;> simp [same]

theorem mem_listing_trans {passes : NodeKind → Bool} (wf : WellFormed t) (id : Nat) :
    ∀ between ∈ listing passes t id, ∀ other ∈ listing passes t between,
      other ∈ listing passes t id := by
  induction id using wf.induction with
  | step id ih =>
      intro between found other below
      rcases (mem_listing_iff wf id between).mp found with rfl | ⟨through, child, member, inner⟩
      · exact below
      · exact (mem_listing_iff wf id other).mpr
          (.inr ⟨through, child, member, ih child member between inner other below⟩)

/-- Whether a node of the listing from `id` is still there once some have left: it is, unless it
stands at or below one of them. -/
def Remains (passes : NodeKind → Bool) (t : Tree) (ids : List Nat) (id other : Nat) : Prop :=
  ∀ leaver ∈ ids, leaver ≠ id → leaver ∈ listing passes t id → other ∉ listing passes t leaver

instance (passes : NodeKind → Bool) (t : Tree) (ids : List Nat) (id : Nat) :
    DecidablePred (Remains passes t ids id) := fun _ => inferInstanceAs (Decidable (∀ _ ∈ ids, _))

theorem remains_self {passes : NodeKind → Bool} (wf : WellFormed t) (ids : List Nat) (id : Nat) :
    Remains passes t ids id id := by
  intro leaver _ ne below found
  have first := listing_above wf id leaver below
  have second := listing_above wf leaver id found
  omega

/-- What stands below a child that has left does not remain, and what stands below another child
remains if it does so there. -/
theorem remains_child {passes : NodeKind → Bool} (wf : WellFormed t) (ids : List Nat)
    {id child other : Nat} (through : passes (t.node id).kind = true)
    (member : child ∈ t.children id) (below : other ∈ listing passes t child) :
    Remains passes t ids id other ↔ child ∉ ids ∧ Remains passes t ids child other := by
  have upward := wf.child_above member
  constructor
  · intro remains
    constructor
    · intro leaves
      exact remains child leaves (by omega) (listing_child wf id id (mem_listing_self id) through
        child member) below
    · intro leaver leaves _ inner
      have bound := listing_above wf child leaver inner
      exact remains leaver leaves (by omega)
        ((mem_listing_iff wf id leaver).mpr (.inr ⟨through, child, member, inner⟩))
  · rintro ⟨stays, remains⟩ leaver leaves ne found under
    rcases (mem_listing_iff wf id leaver).mp found with same | ⟨_, second, member', inner⟩
    · exact ne same
    · -- Both children have the node below them, so they are one.
      have common := mem_listing_trans wf second leaver inner other under
      have same : second = child := by
        apply Decidable.byContradiction
        intro differ
        exact listing_disjoint wf member' member differ other common below
      subst second
      exact remains leaver leaves (fun other => stays (other ▸ leaves)) inner under

theorem flatMap_remains {passes : NodeKind → Bool} (wf : WellFormed t) (ids : List Nat) {id : Nat}
    (through : passes (t.node id).kind = true) (children : List Nat)
    (own : ∀ child ∈ children, child ∈ t.children id ∧ listing passes (t.detachAll ids) child =
      (listing passes t child).filter (Remains passes t ids child ·)) :
    (children.filter (· ∉ ids)).flatMap (listing passes (t.detachAll ids)) =
      (children.flatMap (listing passes t)).filter (Remains passes t ids id ·) := by
  induction children with
  | nil => rfl
  | cons child rest ih =>
      have tail := ih fun other member => own other (List.mem_cons_of_mem _ member)
      obtain ⟨member, kept⟩ := own child List.mem_cons_self
      have each (other : Nat) (below : other ∈ listing passes t child) :=
        remains_child wf ids through member below
      rw [List.flatMap_cons, List.filter_append, ← tail]
      by_cases leaves : child ∈ ids
      · have none : (listing passes t child).filter (Remains passes t ids id ·) = [] := by
          rw [List.filter_eq_nil_iff]
          intro other below
          simp [each other below, leaves]
        rw [none, List.filter_cons_of_neg (by simpa using leaves), List.nil_append]
      · have same : (listing passes t child).filter (Remains passes t ids id ·) =
            listing passes (t.detachAll ids) child := by
          rw [kept]
          apply List.filter_congr
          intro other below
          simp [each other below, leaves]
        rw [same, List.filter_cons_of_pos (by simpa using leaves), List.flatMap_cons]

theorem listing_detachAll {passes : NodeKind → Bool} (wf : WellFormed t) (ids : List Nat)
    (id : Nat) : listing passes (t.detachAll ids) id =
      (listing passes t id).filter (Remains passes t ids id ·) := by
  induction id using wf.induction with
  | step id ih =>
      have own : Remains passes t ids id id := remains_self wf ids id
      rw [listing_eq (wellFormed_detachAll wf ids), listing_eq wf id,
        view_detachAll Node.kind t ids id (fun _ => rfl), wf.children_detachAll,
        List.filter_cons_of_pos (by simpa using own)]
      congr 1
      split
      next through =>
        exact flatMap_remains wf ids through _ fun child member => ⟨member, ih child member⟩
      next => rfl

theorem frontier_detachAll (wf : WellFormed t) {ids : List Nat}
    (tagged : ∀ id ∈ ids, (t.node id).kind.isWrapper = false) :
    (t.detachAll ids).frontier = t.frontier.filter (· ∉ ids) := by
  have root : (t.node 0).kind = .root := (wf.top 0 wf.rooted).mpr rfl
  rw [frontier, listing_detachAll wf]
  apply List.filter_congr
  intro id found
  rw [decide_eq_decide]
  constructor
  · intro remains leaves
    have tag := tagged id leaves
    refine remains id leaves ?_ found (mem_listing_self id)
    rintro rfl
    rw [root] at tag
    cases tag
  · -- A node that leaves is no wrapper, so nothing else goes with it.
    intro stays leaver leaves _ _ below
    rw [listing_eq wf, tagged leaver leaves] at below
    exact stays (List.mem_singleton.mp below ▸ leaves)

theorem reached_congr {u : Tree} {passes : NodeKind → Bool}
    (children : ∀ id, u.children id = t.children id)
    (kind : ∀ id, (u.node id).kind = (t.node id).kind) {id : Nat}
    (reached : t.Reached passes id) : u.Reached passes id := by
  induction reached with
  | root => exact .root
  | child _ through member ih =>
      refine ih.child ?_ ?_
      · rw [kind]
        exact through
      · rw [children]
        exact member

theorem Reached.linked {passes : NodeKind → Bool} {id : Nat} (reached : t.Reached passes id) :
    t.Linked id := by
  induction reached with
  | root => exact .root
  | child _ _ member ih => exact ih.child rfl member

theorem linked_of_stays (wf : WellFormed t) {ids : List Nat}
    (tagged : ∀ id ∈ ids, (t.node id).kind.isWrapper = false) {id : Nat} (member : id ∈ t.frontier)
    (stays : id ∉ ids) : (t.detachAll ids).Linked id := by
  have still : id ∈ (t.detachAll ids).frontier := by
    rw [frontier_detachAll wf tagged]
    exact List.mem_filter.mpr ⟨member, by simpa using stays⟩
  exact ((mem_frontier (wellFormed_detachAll wf ids) id).mp still).linked

end TemplateWiring.Tree
