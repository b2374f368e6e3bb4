import TemplateWiring.Proofs.Tree.WellFormed

/-! Nodes in document order. A listing starts at a node and goes down through the kinds of nodes
that it passes; the frontier passes wrappers only, and document order passes everything. -/

namespace TemplateWiring

/-- A node without a tag of its own: what stands inside it stands in its place. -/
def NodeKind.isWrapper : NodeKind → Bool
  | .root | .container => true
  | .element | .custom | .other => false

namespace Tree

mutual

/-- The nodes from `id` down, a node before its children. As in `nested`, a link that does not lead
to a greater number is not followed. -/
def listing (passes : NodeKind → Bool) (t : Tree) (id : Nat) : List Nat :=
  id :: if passes (t.node id).kind then listingAll passes t id (t.children id) else []
termination_by (t.size - id, 1, 0)

def listingAll (passes : NodeKind → Bool) (t : Tree) (id : Nat) : List Nat → List Nat
  | [] => []
  | c :: cs =>
    if t.isDetached c then listingAll passes t id cs
    else if _h : id < c ∧ c < t.size then listing passes t c ++ listingAll passes t id cs
    else listingAll passes t id cs
termination_by cs => (t.size - id, 0, cs.length)

end

def subtree (t : Tree) (id : Nat) : List Nat := listing (fun _ => true) t id

def documentOrder (t : Tree) : List Nat := t.subtree 0

def frontier (t : Tree) : List Nat := listing NodeKind.isWrapper t 0

/-- Links lead from the root to the node, through kinds that `passes` accepts. -/
inductive Reached (passes : NodeKind → Bool) (t : Tree) : Nat → Prop
  | root : Reached passes t 0
  | child {parent child : Nat} (above : Reached passes t parent)
      (through : passes (t.node parent).kind = true) (member : child ∈ t.children parent) :
      Reached passes t child

def Linked (t : Tree) (id : Nat) : Prop := t.Reached (fun _ => true) id

variable {t : Tree} {passes : NodeKind → Bool}

theorem listingAll_eq (wf : WellFormed t) (id : Nat) (children : List Nat)
    (own : ∀ child ∈ children, child ∈ t.children id) :
    listingAll passes t id children = children.flatMap (listing passes t) := by
  induction children with
  | nil => simp [listingAll]
  | cons child rest ih =>
      have member : child ∈ t.children id := own child List.mem_cons_self
      have present := wf.child_present member
      have bounds := And.intro (wf.child_above member) (wf.child_inside member)
      have tail := ih (fun next found => own next (List.mem_cons_of_mem _ found))
      rw [listingAll, if_neg (by simp [present]), dif_pos bounds, tail, List.flatMap_cons]

theorem listing_eq (wf : WellFormed t) (id : Nat) : listing passes t id =
    id :: if passes (t.node id).kind then (t.children id).flatMap (listing passes t) else [] := by
  rw [listing, listingAll_eq wf id _ (fun _ member => member)]

theorem subtree_eq (wf : WellFormed t) (id : Nat) :
    t.subtree id = id :: (t.children id).flatMap t.subtree := by
  rw [subtree, listing_eq wf, if_pos rfl]
  rfl

theorem mem_listing_self (id : Nat) : id ∈ listing passes t id := by
  rw [listing]
  exact List.mem_cons_self

theorem mem_listing_iff (wf : WellFormed t) (id other : Nat) : other ∈ listing passes t id ↔
    other = id ∨ passes (t.node id).kind = true ∧
      ∃ child ∈ t.children id, other ∈ listing passes t child := by
  rw [listing_eq wf, List.mem_cons]
  split
  next open_ => simp [open_]
  next closed => simp [closed]

theorem listing_above (wf : WellFormed t) (id : Nat) :
    ∀ other ∈ listing passes t id, id ≤ other := by
  induction id using wf.induction with
  | step id ih =>
      intro other found
      rcases (mem_listing_iff wf id other).mp found with same | ⟨_, child, member, below⟩
      · exact Nat.le_of_eq same.symm
      · have upward := wf.child_above member
        have further := ih child member other below
        omega

theorem listing_parent (wf : WellFormed t) (id : Nat) :
    ∀ other ∈ listing passes t id, other ≠ id → ∃ parent ∈ listing passes t id,
      (t.node other).parent = some parent ∧ passes (t.node parent).kind = true := by
  induction id using wf.induction with
  | step id ih =>
      intro other found ne
      rcases (mem_listing_iff wf id other).mp found with same | ⟨through, child, member, below⟩
      · exact absurd same ne
      by_cases first : other = child
      · subst other
        exact ⟨id, mem_listing_self id, (wf.linked id child).mp member, through⟩
      · obtain ⟨parent, inside, link, passed⟩ := ih child member other below first
        exact ⟨parent, (mem_listing_iff wf id parent).mpr (.inr ⟨through, child, member, inside⟩),
          link, passed⟩

theorem listing_child (wf : WellFormed t) (id : Nat) :
    ∀ parent ∈ listing passes t id, passes (t.node parent).kind = true →
      ∀ child ∈ t.children parent, child ∈ listing passes t id := by
  induction id using wf.induction with
  | step id ih =>
      intro parent found through child member
      apply (mem_listing_iff wf id child).mpr
      rcases (mem_listing_iff wf id parent).mp found with same | ⟨passed, first, top, below⟩
      · subst parent
        exact .inr ⟨through, child, member, mem_listing_self child⟩
      · exact .inr ⟨passed, first, top, ih first top parent below through child member⟩

theorem listing_inside (wf : WellFormed t) {id : Nat} (inside : id < t.size) :
    ∀ other ∈ listing passes t id, other < t.size := by
  intro other found
  by_cases first : other = id
  · omega
  · obtain ⟨parent, _, link, _⟩ := listing_parent wf id other found first
    exact inside_of_parent link

theorem listing_disjoint (wf : WellFormed t) {id first second : Nat}
    (left : first ∈ t.children id) (right : second ∈ t.children id) (ne : first ≠ second) :
    ∀ other, other ∈ listing passes t first → other ∉ listing passes t second := by
  intro other
  induction other using Nat.strongRecOn with
  | _ other ih =>
      intro inFirst inSecond
      have parent_first := (wf.linked id first).mp left
      have parent_second := (wf.linked id second).mp right
      -- Going up from a common node, both listings would hold the parent of the two children.
      have above (child : Nat) (member : child ∈ t.children id) :
          id ∉ listing passes t child := by
        intro found
        have upward := wf.child_above member
        have bound := listing_above wf child id found
        omega
      by_cases atFirst : other = first
      · subst other
        obtain ⟨parent, found, link, _⟩ := listing_parent wf second first inSecond ne
        cases link.symm.trans parent_first
        exact above second right found
      by_cases atSecond : other = second
      · subst other
        obtain ⟨parent, found, link, _⟩ := listing_parent wf first second inFirst atFirst
        cases link.symm.trans parent_second
        exact above first left found
      obtain ⟨parent, found, link, _⟩ := listing_parent wf first other inFirst atFirst
      obtain ⟨parent', found', link', _⟩ := listing_parent wf second other inSecond atSecond
      cases link.symm.trans link'
      exact ih parent (wf.above parent other link) found found'

theorem listing_nodup (wf : WellFormed t) (id : Nat) : (listing passes t id).Nodup := by
  induction id using wf.induction with
  | step id ih =>
      rw [listing_eq wf]
      split
      next =>
        apply List.nodup_cons.mpr
        constructor
        · intro found
          obtain ⟨child, member, below⟩ := List.mem_flatMap.mp found
          have upward := wf.child_above member
          have bound := listing_above wf child id below
          omega
        · rw [List.Nodup, List.pairwise_flatMap]
          refine ⟨ih, ?_⟩
          apply (wf.children_nodup id).imp_of_mem
          intro first second left right ne other found other' found' same
          exact listing_disjoint wf left right ne other found (same ▸ found')
      next => simp

theorem listing_sublist (wf : WellFormed t) {wider : NodeKind → Bool}
    (more : ∀ kind, passes kind = true → wider kind = true) (id : Nat) :
    (listing passes t id).Sublist (listing wider t id) := by
  induction id using wf.induction with
  | step id ih =>
      rw [listing_eq wf, listing_eq wf]
      apply List.Sublist.cons_cons
      by_cases through : passes (t.node id).kind = true
      · rw [if_pos through, if_pos (more _ through)]
        generalize t.children id = children at ih
        induction children with
        | nil => simp
        | cons child rest tail =>
            rw [List.flatMap_cons, List.flatMap_cons]
            exact (ih child List.mem_cons_self).append
              (tail (fun next member => ih next (List.mem_cons_of_mem _ member)))
      · rw [if_neg through]
        exact List.nil_sublist _

theorem frontier_sublist (wf : WellFormed t) : t.frontier.Sublist t.documentOrder :=
  listing_sublist wf (fun _ _ => rfl) 0

theorem frontier_nodup (wf : WellFormed t) : t.frontier.Nodup := listing_nodup wf 0

theorem frontier_inside (wf : WellFormed t) : ∀ id ∈ t.frontier, id < t.size :=
  listing_inside wf wf.rooted

theorem mem_listing_reached (wf : WellFormed t) (id : Nat) :
    id ∈ listing passes t 0 ↔ t.Reached passes id := by
  constructor
  · intro found
    induction id using Nat.strongRecOn with
    | _ id ih =>
        by_cases top : id = 0
        · rw [top]
          exact .root
        · obtain ⟨parent, member, link, through⟩ := listing_parent wf 0 id found top
          have above := ih parent (wf.above parent id link) member
          exact above.child through ((wf.linked parent id).mpr link)
  · intro reached
    induction reached with
    | root => exact mem_listing_self 0
    | child _ through member ih => exact listing_child wf 0 _ ih through _ member

theorem mem_frontier (wf : WellFormed t) (id : Nat) :
    id ∈ t.frontier ↔ t.Reached NodeKind.isWrapper id := mem_listing_reached wf id

end Tree

end TemplateWiring
