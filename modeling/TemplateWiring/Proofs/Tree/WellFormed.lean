import TemplateWiring.Proofs.Tree.Access

/-! The shape of the trees that the operations build: links agree in both directions and lead to
greater numbers, and a node that has left is linked to nothing. -/

namespace TemplateWiring

structure Node.Fresh (n : Node) : Prop where
  kind : n.kind ≠ .root
  children : n.children = []
  present : n.detached = false

namespace Tree

inductive Reachable : Tree → Prop
  | empty : Reachable empty
  | append {t : Tree} {parent : Nat} {n : Node} (built : Reachable t) (inside : parent < t.size)
      (fresh : n.Fresh) : Reachable (t.append parent n)
  | detach {t : Tree} {id : Nat} (built : Reachable t) (inside : id < t.size) :
      Reachable (t.detach id)
  | setAttr {t : Tree} {id : Nat} (built : Reachable t) (inside : id < t.size) (name : String)
      (value : AttrValue) : Reachable (t.setAttr id name value)

structure WellFormed (t : Tree) : Prop where
  rooted : 0 < t.size
  linked : ∀ parent child, child ∈ t.children parent ↔ (t.node child).parent = some parent
  ordered : ∀ parent, (t.children parent).Pairwise (· < ·)
  above : ∀ parent child, (t.node child).parent = some parent → parent < child
  left : ∀ id, t.isDetached id = true → (t.node id).parent = none
  held : ∀ id, 0 < id → id < t.size → t.isDetached id = false → (t.node id).parent ≠ none
  top : ∀ id, id < t.size → ((t.node id).kind = .root ↔ id = 0)

variable {t : Tree}

theorem inside_of_parent {child parent : Nat} (found : (t.node child).parent = some parent) :
    child < t.size := by
  apply Decidable.byContradiction
  intro outside
  simp [t.node_outside child (Nat.not_lt.mp outside)] at found

namespace WellFormed

theorem child_above (wf : WellFormed t) {parent child : Nat} (member : child ∈ t.children parent) :
    parent < child := wf.above _ _ ((wf.linked _ _).mp member)

theorem child_inside (wf : WellFormed t) {parent child : Nat} (member : child ∈ t.children parent) :
    child < t.size := inside_of_parent ((wf.linked _ _).mp member)

theorem child_present (wf : WellFormed t) {parent child : Nat}
    (member : child ∈ t.children parent) : t.isDetached child = false := by
  have found := (wf.linked _ _).mp member
  cases gone : t.isDetached child with
  | false => rfl
  | true => simp [wf.left child gone] at found

theorem children_nodup (wf : WellFormed t) (parent : Nat) : (t.children parent).Nodup :=
  (wf.ordered parent).imp Nat.ne_of_lt

/-- Links lead to greater numbers, so what holds of a node when it holds of its children holds
everywhere. -/
theorem induction {P : Nat → Prop} (wf : WellFormed t)
    (step : ∀ id, (∀ child ∈ t.children id, P child) → P id) (id : Nat) : P id := by
  by_cases inside : id < t.size
  · generalize distance : t.size - id = fuel
    induction fuel using Nat.strongRecOn generalizing id with
    | _ fuel ih =>
      apply step
      intro child member
      have upward := wf.child_above member
      have bound := wf.child_inside member
      exact ih (t.size - child) (by omega) child bound rfl
  · apply step
    intro child member
    have outside := t.node_outside id (Nat.not_lt.mp inside)
    simp [children, outside] at member

end WellFormed

theorem wellFormed_empty : WellFormed empty := by
  have alone (id : Nat) : empty.node id = { kind := if id = 0 then .root else .container } := by
    cases id <;> rfl
  have one : empty.size = 1 := rfl
  constructor
  · decide
  · simp [children, alone]
  · simp [children, alone]
  · simp [alone]
  · simp [alone]
  · intro id positive inside
    omega
  · intro id inside
    have zero : id = 0 := by omega
    simp [alone, zero]

theorem children_append {parent : Nat} (id : Nat) {n : Node} (inside : parent < t.size)
    (fresh : n.Fresh) : (t.append parent n).children id =
      if id = parent then t.children parent ++ [t.size] else t.children id := by
  rw [children, t.node_append parent id n inside]
  by_cases last : id = t.size
  · have outside := t.node_outside id (Nat.le_of_eq last.symm)
    have ne : id ≠ parent := by omega
    rw [if_pos last, if_neg ne, children, outside]
    exact fresh.children
  · rw [if_neg last]
    by_cases same : id = parent
    · rw [if_pos same, if_pos same]
    · rw [if_neg same, if_neg same]
      rfl

theorem parent_append {parent : Nat} (id : Nat) {n : Node} (inside : parent < t.size) :
    ((t.append parent n).node id).parent =
      if id = t.size then some parent else (t.node id).parent := by
  rw [t.node_append parent id n inside]
  by_cases last : id = t.size
  · rw [if_pos last, if_pos last]
  · rw [if_neg last, if_neg last]
    by_cases same : id = parent
    · rw [if_pos same, same]
    · rw [if_neg same]

theorem view_append {α : Type} (view : Node → α) {parent id : Nat} {n : Node}
    (inside : parent < t.size) (older : id < t.size)
    (blind : ∀ n children, view { n with children := children } = view n) :
    view ((t.append parent n).node id) = view (t.node id) := by
  rw [t.node_append parent id n inside, if_neg (Nat.ne_of_lt older)]
  by_cases same : id = parent
  · rw [if_pos same, same]
    exact blind _ _
  · rw [if_neg same]

theorem detached_append {parent : Nat} (id : Nat) {n : Node} (inside : parent < t.size)
    (fresh : n.Fresh) : (t.append parent n).isDetached id = t.isDetached id := by
  rw [isDetached, t.node_append parent id n inside]
  by_cases last : id = t.size
  · rw [if_pos last, isDetached, t.node_outside id (Nat.le_of_eq last.symm)]
    exact fresh.present
  · rw [if_neg last]
    by_cases same : id = parent
    · rw [if_pos same, same]
      rfl
    · rw [if_neg same]
      rfl

theorem wellFormed_append {parent : Nat} {n : Node} (wf : WellFormed t) (inside : parent < t.size)
    (fresh : n.Fresh) : WellFormed (t.append parent n) := by
  have unborn : (t.node t.size).parent = none := by simp [t.node_outside t.size (Nat.le_refl _)]
  constructor
  · simp
  · intro owner child
    rw [children_append owner inside fresh, parent_append child inside]
    by_cases last : child = t.size
    · subst child
      have absent : t.size ∉ t.children owner := by simp [wf.linked, unborn]
      by_cases same : owner = parent
      · simp [same]
      · simp [same, absent, Ne.symm same]
    · by_cases same : owner = parent
      · simp [same, last, wf.linked]
      · simp [same, last, wf.linked]
  · intro owner
    rw [children_append owner inside fresh]
    split
    · rw [List.pairwise_append]
      refine ⟨wf.ordered parent, by simp, ?_⟩
      intro child member last found
      rw [List.mem_singleton.mp found]
      exact wf.child_inside member
    · exact wf.ordered owner
  · intro owner child found
    rw [parent_append child inside] at found
    split at found
    · cases found
      omega
    · exact wf.above owner child found
  · intro id gone
    rw [detached_append id inside fresh] at gone
    have ne : id ≠ t.size := by
      intro last
      simp [isDetached, t.node_outside id (Nat.le_of_eq last.symm)] at gone
    rw [parent_append id inside, if_neg ne]
    exact wf.left id gone
  · intro id positive bound present
    rw [size_append] at bound
    rw [detached_append id inside fresh] at present
    rw [parent_append id inside]
    by_cases last : id = t.size
    · simp [last]
    · rw [if_neg last]
      exact wf.held id positive (by omega) present
  · intro id bound
    rw [size_append] at bound
    by_cases last : id = t.size
    · have positive : id ≠ 0 := by have := wf.rooted; omega
      rw [t.node_append parent id n inside, if_pos last]
      simp [fresh.kind, positive]
    · have older : id < t.size := by omega
      rw [view_append Node.kind inside older (fun _ _ => rfl)]
      exact wf.top id older

theorem WellFormed.children_detach (wf : WellFormed t) (id owner : Nat) :
    (t.detach id).children owner = (t.children owner).filter (· ≠ id) := by
  rw [children_detach_parent]
  split
  next => rfl
  next stranger =>
    rw [← wf.linked] at stranger
    symm
    apply List.filter_eq_self.mpr
    intro child member
    simpa using ne_of_mem_of_not_mem member stranger

theorem wellFormed_detach (wf : WellFormed t) (id : Nat) : WellFormed (t.detach id) := by
  constructor
  · simpa using wf.rooted
  · intro owner child
    rw [wf.children_detach, parent_detach, List.mem_filter, wf.linked]
    by_cases same : child = id <;> simp [same]
  · intro owner
    rw [wf.children_detach]
    exact (wf.ordered owner).filter _
  · intro owner child found
    rw [parent_detach] at found
    split at found
    · cases found
    · exact wf.above owner child found
  · intro other gone
    rw [parent_detach]
    split
    next => rfl
    next ne =>
      apply wf.left
      simpa [detached_detach, ne] using gone
  · intro other positive bound present
    rw [size_detach] at bound
    rw [detached_detach, Bool.or_eq_false_iff] at present
    have ne : other ≠ id := by
      intro same
      simp [same, same ▸ bound] at present
    rw [parent_detach, if_neg ne]
    exact wf.held other positive bound present.1
  · intro other bound
    rw [t.view_detach id other Node.kind (fun _ => rfl)]
    exact wf.top other (by simpa using bound)

theorem wellFormed_setAttr (wf : WellFormed t) (id : Nat) (name : String) (value : AttrValue) :
    WellFormed (t.setAttr id name value) := by
  have children_kept (other : Nat) : (t.setAttr id name value).children other = t.children other :=
    t.view_setAttr id other Node.children name value (fun _ _ => rfl)
  have parent_kept (other : Nat) :
      ((t.setAttr id name value).node other).parent = (t.node other).parent :=
    t.view_setAttr id other Node.parent name value (fun _ _ => rfl)
  have detached_kept (other : Nat) :
      (t.setAttr id name value).isDetached other = t.isDetached other :=
    t.view_setAttr id other Node.detached name value (fun _ _ => rfl)
  have kind_kept (other : Nat) :
      ((t.setAttr id name value).node other).kind = (t.node other).kind :=
    t.view_setAttr id other Node.kind name value (fun _ _ => rfl)
  constructor
  · simpa using wf.rooted
  · simpa only [children_kept, parent_kept] using wf.linked
  · simpa only [children_kept] using wf.ordered
  · simpa only [parent_kept] using wf.above
  · simpa only [detached_kept, parent_kept] using wf.left
  · simpa only [detached_kept, parent_kept, size_setAttr] using wf.held
  · simpa only [kind_kept, size_setAttr] using wf.top

theorem wellFormed_of_reachable (built : Reachable t) : WellFormed t := by
  induction built with
  | empty => exact wellFormed_empty
  | append _ inside fresh ih => exact wellFormed_append ih inside fresh
  | detach _ _ ih => exact wellFormed_detach ih _
  | setAttr _ _ name value ih => exact wellFormed_setAttr ih _ name value

end Tree

end TemplateWiring
