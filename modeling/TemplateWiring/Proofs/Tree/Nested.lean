import TemplateWiring.Proofs.Template.Numbered
import TemplateWiring.Proofs.Tree.Leaving

namespace TemplateWiring.Tree

variable {t : Tree}

theorem nestedAll_eq (wf : WellFormed t) (id : Nat) (children : List Nat)
    (own : ∀ child ∈ children, child ∈ t.children id) :
    nestedAll t id children = children.map (nested t) := by
  induction children with
  | nil => simp [nestedAll]
  | cons child rest ih =>
      have member : child ∈ t.children id := own child List.mem_cons_self
      have present := wf.child_present member
      have bounds := And.intro (wf.child_above member) (wf.child_inside member)
      have tail := ih (fun next found => own next (List.mem_cons_of_mem _ found))
      rw [nestedAll, if_neg (by simp [present]), dif_pos bounds, tail, List.map_cons]

theorem nested_eq (wf : WellFormed t) (id : Nat) :
    nested t id = (t.node id).template ((t.children id).map (nested t)) := by
  rw [nested, nestedAll_eq wf id (t.node id).children (fun _ member => member)]
  rfl

theorem toTemplate_eq (wf : WellFormed t) : t.toTemplate = nested t 0 := by
  have root : (t.node 0).kind = .root := (wf.top 0 wf.rooted).mpr rfl
  rw [nested_eq wf, toTemplate, nestedAll_eq wf 0 _ (fun _ member => member), Node.template, root]

theorem sizeAll_nested (ids : List Nat)
    (each : ∀ id ∈ ids, (nested t id).size = (t.subtree id).length) :
    Template.sizeAll (ids.map (nested t)) = (ids.flatMap t.subtree).length := by
  induction ids with
  | nil => rfl
  | cons id rest ih =>
      have tail := ih (fun other member => each other (List.mem_cons_of_mem _ member))
      rw [List.map_cons, Template.sizeAll, each id List.mem_cons_self, tail, List.flatMap_cons,
        List.length_append]

theorem size_nested (wf : WellFormed t) (id : Nat) :
    (nested t id).size = (t.subtree id).length := by
  induction id using wf.induction with
  | step id ih =>
      rw [nested_eq wf, Node.size_template, sizeAll_nested _ ih, subtree_eq wf, List.length_cons,
        Nat.add_comm]

def Counted (number : Nat → Nat) (k : Nat) (ids : List Nat) : Prop :=
  ids.map number = List.range' k ids.length

theorem Counted.cons {number : Nat → Nat} {k id : Nat} {ids : List Nat}
    (counted : Counted number k (id :: ids)) : number id = k ∧ Counted number (k + 1) ids := by
  rw [Counted, List.map_cons, List.length_cons, List.range'_succ] at counted
  exact List.cons.inj counted

theorem Counted.append {number : Nat → Nat} {k : Nat} {first second : List Nat}
    (counted : Counted number k (first ++ second)) :
    Counted number k first ∧ Counted number (k + first.length) second := by
  rw [Counted, List.map_append, List.length_append, ← List.range'_append_1] at counted
  exact List.append_inj counted (by simp)

theorem Counted.children (wf : WellFormed t) {number : Nat → Nat} {k id : Nat} {rest : List Nat}
    (counted : Counted number k ((id :: rest).flatMap t.subtree)) :
    number id = k ∧ Counted number k (t.subtree id) ∧
      Counted number (k + (nested t id).size) (rest.flatMap t.subtree) := by
  rw [List.flatMap_cons] at counted
  obtain ⟨first, later⟩ := counted.append
  rw [size_nested wf]
  refine ⟨?_, first, later⟩
  rw [subtree_eq wf] at first
  exact first.cons.1

theorem stripAll_nested (wf : WellFormed t) {gone : Nat → Bool} {number : Nat → Nat}
    {leavers : List Nat} (ids : List Nat) (k : Nat)
    (counted : Counted number k (ids.flatMap t.subtree))
    (named : ∀ id ∈ ids, gone (number id) = decide (id ∈ leavers))
    (each : ∀ id ∈ ids, Counted number (number id) (t.subtree id) →
      nested (t.detachAll leavers) id = (nested t id).strip gone (number id)) :
    (ids.filter (· ∉ leavers)).map (nested (t.detachAll leavers)) =
      Template.stripAll gone k (ids.map (nested t)) := by
  induction ids generalizing k with
  | nil => rfl
  | cons id rest ih =>
      obtain ⟨first, own, later⟩ := counted.children wf
      have tail := ih _ later (fun other member => named other (List.mem_cons_of_mem _ member))
        (fun other member => each other (List.mem_cons_of_mem _ member))
      have leaves := named id List.mem_cons_self
      have kept := each id List.mem_cons_self (by rw [first]; exact own)
      rw [first] at leaves kept
      rw [List.map_cons, Template.stripAll, leaves, ← tail]
      by_cases among : id ∈ leavers
      · simp [among]
      · simp [among, kept]

/-- When nodes leave, the nested form loses the templates that have their numbers. -/
theorem nested_detachAll (wf : WellFormed t) {gone : Nat → Bool} {number : Nat → Nat}
    {leavers : List Nat} (id : Nat) : ∀ k, Counted number k (t.subtree id) →
      (∀ other ∈ t.subtree id, gone (number other) = decide (other ∈ leavers)) →
      nested (t.detachAll leavers) id = (nested t id).strip gone k := by
  induction id using wf.induction with
  | step id ih =>
      intro k counted named
      rw [subtree_eq wf] at counted named
      have below := counted.cons.2
      have child_named (child : Nat) (member : child ∈ t.children id) :
          ∀ other ∈ t.subtree child, gone (number other) = decide (other ∈ leavers) := by
        intro other found
        exact named other (List.mem_cons_of_mem _ (List.mem_flatMap.mpr ⟨child, member, found⟩))
      have stripped := stripAll_nested wf (t.children id) (k + 1) below
        (fun child member => child_named child member child (mem_listing_self child))
        (fun child member own => ih child member _ own (child_named child member))
      calc
        nested (t.detachAll leavers) id =
            ((t.detachAll leavers).node id).template
              (((t.detachAll leavers).children id).map (nested (t.detachAll leavers))) :=
          nested_eq (wellFormed_detachAll wf leavers) id
        _ = (t.node id).template
            (((t.children id).filter (· ∉ leavers)).map (nested (t.detachAll leavers))) := by
          rw [view_detachAll (fun n => n.template _) t leavers id (fun _ => rfl),
            wf.children_detachAll]
        _ = (t.node id).template
            (Template.stripAll gone (k + 1) ((t.children id).map (nested t))) := by rw [stripped]
        _ = (nested t id).strip gone k := by rw [nested_eq wf, Node.strip_template]

theorem frontierAll_nested (wf : WellFormed t) {number : Nat → Nat} (ids : List Nat) (k : Nat)
    (counted : Counted number k (ids.flatMap t.subtree))
    (each : ∀ id ∈ ids, Counted number (number id) (t.subtree id) →
      (nested t id).frontier (number id) =
        (listing NodeKind.isWrapper t id).map fun other => (number other, nested t other)) :
    Template.frontierAll k (ids.map (nested t)) =
      (ids.flatMap (listing NodeKind.isWrapper t)).map
        fun other => (number other, nested t other) := by
  induction ids generalizing k with
  | nil => rfl
  | cons id rest ih =>
      obtain ⟨first, own, later⟩ := counted.children wf
      have tail := ih _ later (fun other member => each other (List.mem_cons_of_mem _ member))
      have here := each id List.mem_cons_self (by rw [first]; exact own)
      rw [first] at here
      rw [List.map_cons, Template.frontierAll, here, tail, List.flatMap_cons, List.map_append]

theorem frontier_nested (wf : WellFormed t) {number : Nat → Nat} (id : Nat) :
    ∀ k, Counted number k (t.subtree id) → (nested t id).frontier k =
      (listing NodeKind.isWrapper t id).map fun other => (number other, nested t other) := by
  induction id using wf.induction with
  | step id ih =>
      intro k counted
      rw [subtree_eq wf] at counted
      obtain ⟨first, below⟩ := counted.cons
      have inner := frontierAll_nested wf (t.children id) (k + 1) below
        (fun child member own => ih child member _ own)
      rw [listing_eq wf, List.map_cons, first, nested_eq wf id, Node.frontier_template]
      split
      · rw [inner]
      · rfl

theorem nested_congr {u : Tree} (wf : WellFormed t) (wf' : WellFormed u) (id : Nat) :
    (∀ other ∈ t.subtree id, u.node other = t.node other) → nested u id = nested t id := by
  induction id using wf.induction with
  | step id ih =>
      intro same
      rw [subtree_eq wf] at same
      have here := same id List.mem_cons_self
      have children : u.children id = t.children id := congrArg Node.children here
      have below : (t.children id).map (nested u) = (t.children id).map (nested t) := by
        apply List.map_congr_left
        intro child member
        apply ih child member
        intro other found
        exact same other (List.mem_cons_of_mem _ (List.mem_flatMap.mpr ⟨child, member, found⟩))
      rw [nested_eq wf, nested_eq wf', children, here, below]

/-- Nothing of the frontier stands below a tag of the frontier. -/
theorem frontier_outside (wf : WellFormed t) {id child : Nat}
    (tagged : (t.node id).kind.isWrapper = false) (member : child ∈ t.children id) (other : Nat) :
    other ∈ t.subtree child → other ∉ t.frontier := by
  induction other using Nat.strongRecOn with
  | _ other ih =>
      intro below found
      have upward := listing_above wf child other below
      have bound := wf.child_above member
      -- Going up from it inside the frontier, the tag would have to be passed.
      obtain ⟨parent, inside, link, through⟩ := listing_parent wf 0 other found (by omega)
      by_cases top : other = child
      · subst other
        have owner : parent = id :=
          Option.some.inj (link.symm.trans ((wf.linked id child).mp member))
        rw [owner, tagged] at through
        cases through
      · obtain ⟨above, deeper, link', _⟩ := listing_parent wf child other below top
        have owner : parent = above := Option.some.inj (link.symm.trans link')
        subst owner
        exact ih parent (wf.above parent other link) deeper inside

theorem unadornedAll_map (ids : List Nat) (f : Nat → Template) :
    Template.unadornedAll (ids.map f) = ids.map fun id => (f id).unadorned := by
  induction ids with
  | nil => rfl
  | cons id rest ih => rw [List.map_cons, Template.unadornedAll, ih, List.map_cons]

theorem unadorned_congr {u : Tree} (wf : WellFormed t) (wf' : WellFormed u)
    (bare : ∀ id, (u.node id).bare = (t.node id).bare)
    (deep : ∀ id, id ∉ t.frontier → u.node id = t.node id) (id : Nat) :
    id ∈ t.frontier → (nested u id).unadorned = (nested t id).unadorned := by
  induction id using wf.induction with
  | step id ih =>
      intro found
      have kind : (u.node id).kind = (t.node id).kind := by
        change (u.node id).bare.kind = (t.node id).bare.kind
        rw [bare id]
      have children : u.children id = t.children id := by
        change (u.node id).bare.children = (t.node id).bare.children
        rw [bare id]
      rw [nested_eq wf, nested_eq wf', Node.unadorned_template, Node.unadorned_template, kind,
        children, bare id]
      cases wrapper : (t.node id).kind.isWrapper with
      | true =>
          rw [if_pos rfl, if_pos rfl, unadornedAll_map, unadornedAll_map]
          congr 1
          apply List.map_congr_left
          intro child member
          exact ih child member (listing_child wf 0 id found wrapper child member)
      | false =>
          rw [if_neg (by simp), if_neg (by simp)]
          congr 1
          apply List.map_congr_left
          intro child member
          apply nested_congr wf wf'
          intro other inside
          exact deep other (frontier_outside wf wrapper member other inside)

end TemplateWiring.Tree
