import TemplateWiring.Proofs.Template.Numbered

namespace TemplateWiring

namespace Template

/-- Templates side by side, each with the number of its first node; `k` is the first of all. -/
def places (k : Nat) : List Template → List (Nat × Template)
  | [] => []
  | c :: cs => (k, c) :: places (k + c.size) cs

theorem places_append (k : Nat) (first second : List Template) :
    places k (first ++ second) = places k first ++ places (k + sizeAll first) second := by
  induction first generalizing k with
  | nil => rfl
  | cons c rest ih =>
      have shifted : k + c.size + sizeAll rest = k + sizeAll (c :: rest) := by
        simp [sizeAll, Nat.add_assoc]
      rw [List.cons_append, places, ih, shifted, places, List.cons_append]

theorem sizeAll_append (first second : List Template) :
    sizeAll (first ++ second) = sizeAll first + sizeAll second := by
  induction first with
  | nil => exact (Nat.zero_add _).symm
  | cons c rest ih => rw [List.cons_append, sizeAll, sizeAll, ih, Nat.add_assoc]

theorem sizeAll_single (τ : Template) : sizeAll [τ] = τ.size := rfl

theorem places_bounds {k : Nat} {cs : List Template} {place : Nat × Template}
    (member : place ∈ places k cs) :
    k ≤ place.1 ∧ place.1 + place.2.size ≤ k + sizeAll cs := by
  induction cs generalizing k with
  | nil => cases member
  | cons c rest ih =>
      rw [sizeAll]
      rcases List.mem_cons.mp member with rfl | later
      · dsimp only
        omega
      · have bounds := ih later
        omega

theorem flatMap_places (list : Nat → List Nat) (k : Nat) (cs : List Template)
    (each : ∀ place ∈ places k cs, list place.1 = List.range' place.1 place.2.size) :
    ((places k cs).map (·.1)).flatMap list = List.range' k (sizeAll cs) := by
  induction cs generalizing k with
  | nil => rfl
  | cons c rest ih =>
      have first : list k = List.range' k c.size := each (k, c) List.mem_cons_self
      have later := ih (k + c.size) (fun place member => each place (List.mem_cons_of_mem _ member))
      rw [places, List.map_cons, List.flatMap_cons, first, later, sizeAll, List.range'_append_1]

theorem fresh_head (τ : Template) : τ.head.Fresh := by
  cases τ with
  | element kind => cases kind <;> exact ⟨by simp [head], rfl, rfl⟩
  | _ => exact ⟨by simp [head], rfl, rfl⟩

def tops : Template → List Template
  | .root children => children
  | template => [template]

theorem sizeAll_tops (τ : Template) : sizeAll τ.tops ≤ τ.size := by
  cases τ with
  | root cs => exact Nat.le_add_left _ _
  | _ => exact Nat.le_refl _

end Template

namespace Tree

open Template

/-- `τ` takes up the nodes from `id` on. -/
inductive Stands (t : Tree) : Nat → Template → Prop
  | node {id : Nat} {τ : Template} (content : (t.node id).content = τ.head)
      (links : t.children id = (places (id + 1) τ.children).map (·.1))
      (below : ∀ place ∈ places (id + 1) τ.children, Stands t place.1 place.2) : Stands t id τ

theorem Stands.congr {t u : Tree} {id : Nat} {τ : Template} (stands : t.Stands id τ)
    (same : ∀ other, id ≤ other → other < id + τ.size → u.node other = t.node other) :
    u.Stands id τ := by
  induction stands with
  | @node id τ content links _ ih =>
      have size := size_eq τ
      have here : u.node id = t.node id := same id (Nat.le_refl id) (by omega)
      refine .node ?_ ?_ ?_
      · rw [here, content]
      · rw [children, here]
        exact links
      · intro place member
        have bounds := places_bounds member
        apply ih place member
        intro other low high
        exact same other (by omega) (by omega)

/-- `u` is `t` with templates put below `parent`, after the children it has. -/
structure Grown (t u : Tree) (parent : Nat) (cs : List Template) : Prop where
  size : u.size = t.size + sizeAll cs
  older : ∀ id, id < t.size → id ≠ parent → u.node id = t.node id
  parent : u.node parent =
    { t.node parent with children := t.children parent ++ (places t.size cs).map (·.1) }
  below : ∀ place ∈ places t.size cs, u.Stands place.1 place.2

theorem Grown.refl (t : Tree) (parent : Nat) : Grown t t parent [] := by
  constructor
  · rfl
  · exact fun _ _ _ => rfl
  · simp [places, children]
  · exact fun _ member => absurd member List.not_mem_nil

theorem Grown.trans {t u w : Tree} {parent : Nat} {first second : List Template}
    (inside : parent < t.size) (left : Grown t u parent first) (right : Grown u w parent second) :
    Grown t w parent (first ++ second) := by
  have size := left.size
  constructor
  · rw [right.size, size, sizeAll_append, Nat.add_assoc]
  · intro id older ne
    rw [right.older id (by omega) ne, left.older id older ne]
  · rw [right.parent, children, left.parent, size, places_append, List.map_append]
    simp only [List.append_assoc]
  · intro place member
    rw [places_append, List.mem_append] at member
    rcases member with early | late
    · -- What is put below the parent later touches nothing that was put there before.
      have bounds := places_bounds early
      apply (left.below place early).congr
      intro other low high
      exact right.older other (by omega) (by omega)
    · rw [← size] at late
      exact right.below place late

theorem graft_eq (t : Tree) (parent : Nat) (τ : Template) :
    graft t parent τ = graftAll (t.append parent τ.head) t.size τ.children := by
  cases τ <;> rfl

theorem grown_graftAll {parent : Nat} (cs : List Template)
    (each : ∀ c ∈ cs, ∀ t : Tree, parent < t.size → Grown t (graft t parent c) parent [c])
    (t : Tree) (inside : parent < t.size) : Grown t (graftAll t parent cs) parent cs := by
  induction cs generalizing t with
  | nil => exact Grown.refl t parent
  | cons c rest ih =>
      have first := each c List.mem_cons_self t inside
      have wider : parent < (graft t parent c).size := by
        rw [first.size]
        omega
      exact first.trans inside
        (ih (fun other member => each other (List.mem_cons_of_mem _ member)) _ wider)

theorem grown_graft (τ : Template) : ∀ (parent : Nat) (t : Tree), parent < t.size →
    Grown t (graft t parent τ) parent [τ] := by
  induction τ using Template.induction with
  | step τ ih =>
      intro parent t inside
      have appended := t.node_append parent
      have below := grown_graftAll τ.children (fun c member => ih c member t.size)
        (t.append parent τ.head) (by simp)
      rw [← graft_eq] at below
      have new : (t.append parent τ.head).node t.size = { τ.head with parent := some parent } := by
        rw [appended t.size τ.head inside, if_pos rfl]
      have same_size := below.size
      rw [size_append] at same_size
      constructor
      · rw [same_size, sizeAll_single, size_eq]
        omega
      · intro id older ne
        rw [below.older id (by simp; omega) (by omega), appended id τ.head inside,
          if_neg (by omega), if_neg ne]
      · rw [below.older parent (by simp; omega) (by omega), appended parent τ.head inside,
          if_neg (by omega), if_pos rfl]
        rfl
      · intro place member
        cases List.mem_singleton.mp member
        have owned := below.parent
        rw [children, new, (fresh_head τ).children, size_append] at owned
        have stands := below.below
        rw [size_append] at stands
        refine .node ?_ ?_ stands
        · rw [owned]
          cases τ <;> rfl
        · rw [children, owned]
          rfl

theorem reachable_graftAll {parent : Nat} (cs : List Template)
    (each : ∀ c ∈ cs, ∀ t : Tree, parent < t.size → Reachable t → Reachable (graft t parent c))
    (t : Tree) (inside : parent < t.size) (built : Reachable t) :
    Reachable (graftAll t parent cs) := by
  induction cs generalizing t with
  | nil => exact built
  | cons c rest ih =>
      have first := grown_graft c parent t inside
      have wider : parent < (graft t parent c).size := by
        rw [first.size]
        omega
      exact ih (fun other member => each other (List.mem_cons_of_mem _ member)) _ wider
        (each c List.mem_cons_self t inside built)

theorem reachable_graft (τ : Template) : ∀ (parent : Nat) (t : Tree), parent < t.size →
    Reachable t → Reachable (graft t parent τ) := by
  induction τ using Template.induction with
  | step τ ih =>
      intro parent t inside built
      rw [graft_eq]
      exact reachable_graftAll τ.children (fun c member => ih c member t.size) _ (by simp)
        (built.append inside (fresh_head τ))

theorem ofTemplate_eq (τ : Template) : ofTemplate τ = graftAll empty 0 τ.tops := by
  cases τ <;> rfl

theorem reachable_ofTemplate (τ : Template) : Reachable (ofTemplate τ) := by
  rw [ofTemplate_eq]
  exact reachable_graftAll τ.tops (fun c _ => reachable_graft c 0) empty (by decide) .empty

theorem grown_ofTemplate (τ : Template) : Grown empty (ofTemplate τ) 0 τ.tops := by
  rw [ofTemplate_eq]
  exact grown_graftAll τ.tops (fun c _ => grown_graft c 0) empty (by decide)

theorem size_ofTemplate (τ : Template) : (ofTemplate τ).size = sizeAll τ.tops + 1 :=
  (grown_ofTemplate τ).size.trans (Nat.add_comm _ _)

theorem subtree_stands {t : Tree} (wf : WellFormed t) {id : Nat} {τ : Template}
    (stands : t.Stands id τ) : t.subtree id = List.range' id τ.size := by
  induction stands with
  | @node id τ content links below ih =>
      rw [subtree_eq wf, links, flatMap_places _ _ _ ih, size_eq, Nat.add_comm 1 (sizeAll _),
        List.range'_succ]

theorem documentOrder_ofTemplate (τ : Template) :
    (ofTemplate τ).documentOrder = List.range (ofTemplate τ).size := by
  have wf := wellFormed_of_reachable (reachable_ofTemplate τ)
  have grown := grown_ofTemplate τ
  have links : (ofTemplate τ).children 0 = (places 1 τ.tops).map (·.1) :=
    congrArg Node.children grown.parent
  have each : ∀ place ∈ places 1 τ.tops,
      (ofTemplate τ).subtree place.1 = List.range' place.1 place.2.size :=
    fun place member => subtree_stands wf (grown.below place member)
  calc
    (ofTemplate τ).documentOrder =
        0 :: ((ofTemplate τ).children 0).flatMap (ofTemplate τ).subtree := subtree_eq wf 0
    _ = 0 :: List.range' 1 (sizeAll τ.tops) := by rw [links, flatMap_places _ _ _ each]
    _ = List.range (ofTemplate τ).size := by
      rw [size_ofTemplate, List.range_eq_range', List.range'_succ]

theorem map_frontierAll (list : Nat → List Nat) (k : Nat) (cs : List Template)
    (each : ∀ place ∈ places k cs, list place.1 = (place.2.frontier place.1).map (·.1)) :
    ((places k cs).map (·.1)).flatMap list = (frontierAll k cs).map (·.1) := by
  induction cs generalizing k with
  | nil => rfl
  | cons c rest ih =>
      have first : list k = (c.frontier k).map (·.1) := each (k, c) List.mem_cons_self
      have later := ih (k + c.size) (fun place member => each place (List.mem_cons_of_mem _ member))
      rw [places, List.map_cons, List.flatMap_cons, first, later, frontierAll, List.map_append]

theorem mem_frontierAll {k : Nat} {cs : List Template} {place : Nat × Template} :
    place ∈ frontierAll k cs ↔ ∃ top ∈ places k cs, place ∈ top.2.frontier top.1 := by
  induction cs generalizing k with
  | nil => simp [frontierAll, places]
  | cons c rest ih => simp [frontierAll, places, ih]

theorem frontier_stands {t : Tree} {id : Nat} {τ : Template} (stands : t.Stands id τ) :
    ∀ place ∈ τ.frontier id, (t.node place.1).content = place.2.head := by
  induction stands with
  | @node id τ content links below ih =>
      intro place member
      rw [frontier_eq, List.mem_cons] at member
      rcases member with rfl | inner
      · exact content
      · split at inner
        · obtain ⟨top, held, found⟩ := mem_frontierAll.mp inner
          exact ih top held place found
        · cases inner

theorem listing_stands {t : Tree} (wf : WellFormed t) {id : Nat} {τ : Template}
    (stands : t.Stands id τ) :
    listing NodeKind.isWrapper t id = (τ.frontier id).map (·.1) := by
  induction stands with
  | @node id τ content links below ih =>
      have kind : (t.node id).kind = τ.head.kind := by rw [← content]; rfl
      have inner := map_frontierAll (listing NodeKind.isWrapper t) (id + 1) τ.children ih
      rw [listing_eq wf, kind, links, inner, frontier_eq]
      split <;> rfl

theorem frontier_ofTemplate (τ : Template) :
    (ofTemplate τ).frontier = 0 :: (frontierAll 1 τ.tops).map (·.1) := by
  have wf := wellFormed_of_reachable (reachable_ofTemplate τ)
  have grown := grown_ofTemplate τ
  have links : (ofTemplate τ).children 0 = (places 1 τ.tops).map (·.1) :=
    congrArg Node.children grown.parent
  have root : ((ofTemplate τ).node 0).kind = .root := congrArg Node.kind grown.parent
  have inner := map_frontierAll (listing NodeKind.isWrapper (ofTemplate τ)) 1 τ.tops
    fun place member => listing_stands wf (grown.below place member)
  rw [frontier, listing_eq wf, root, links, inner]
  rfl

theorem contents_ofTemplate (τ : Template) :
    (ofTemplate τ).frontier.map (fun id => ((ofTemplate τ).node id).content) =
      { kind := .root } :: (frontierAll 1 τ.tops).map (·.2.head) := by
  have grown := grown_ofTemplate τ
  have root : ((ofTemplate τ).node 0).content = { kind := .root } :=
    congrArg Node.content grown.parent
  rw [frontier_ofTemplate, List.map_cons, root, List.map_map]
  congr 1
  apply List.map_congr_left
  intro place member
  obtain ⟨top, held, found⟩ := mem_frontierAll.mp member
  exact frontier_stands (grown.below top held) place found

end Tree

end TemplateWiring
