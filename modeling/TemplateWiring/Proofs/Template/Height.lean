import TemplateWiring.Proofs.Tree.Grafting
import TemplateWiring.Proofs.Tree.Nested

/-! How high a template is, with its attributes standing one above the element that has them. What
a tree is made of gives its height back, one more below a root that it lacked; nodes that leave make
it no higher, and attributes that are written make it higher by one at most. -/

namespace TemplateWiring

/-- Whether anything but children stands above a node. -/
def Node.fringe (n : Node) : Nat :=
  match n.kind with
  | .element | .custom => if n.attrs.isEmpty then 0 else 1
  | .root | .container | .other => 0

namespace Template

mutual

def height : Template → Nat
  | .root children => heightAll children + 1
  | .container children _ => heightAll children + 1
  | .element _ _ attrs children _ _ =>
    max (heightAll children) (if attrs.isEmpty then 0 else 1) + 1
  | .other _ _ children _ => heightAll children + 1

def heightAll : List Template → Nat
  | [] => 0
  | c :: cs => max (height c) (heightAll cs)

end

def isRoot : Template → Bool
  | .root _ => true
  | .container .. | .element .. | .other .. => false

theorem height_eq (τ : Template) : τ.height = max (heightAll τ.children) τ.head.fringe + 1 := by
  cases τ with
  | element kind => cases kind <;> rfl
  | _ => exact (congrArg (· + 1) (Nat.max_zero _)).symm

theorem heightAll_le {cs : List Template} {n : Nat} :
    heightAll cs ≤ n ↔ ∀ c ∈ cs, c.height ≤ n := by
  induction cs with
  | nil => simp [heightAll]
  | cons c cs ih => rw [heightAll, Nat.max_le, ih, List.forall_mem_cons]

theorem height_le_all {cs : List Template} {c : Template} (member : c ∈ cs) :
    c.height ≤ heightAll cs := heightAll_le.mp (Nat.le_refl _) c member

theorem heightAll_tops (τ : Template) :
    heightAll τ.tops + 1 = τ.height + if τ.isRoot then 0 else 1 := by
  cases τ <;> simp [tops, isRoot, heightAll, height]

theorem height_pos (τ : Template) : 0 < τ.height := by
  rw [height_eq]
  exact Nat.succ_pos _

end Template

namespace Node

theorem fringe_le (n : Node) : n.fringe ≤ if n.attrs.isEmpty then 0 else 1 := by
  rw [fringe]
  cases n.kind <;> simp

theorem height_template (n : Node) (cs : List Template) :
    (n.template cs).height = max (Template.heightAll cs) n.fringe + 1 := by
  simp only [template, fringe]
  cases n.kind with
  | element => rfl
  | custom => rfl
  | _ => exact (congrArg (· + 1) (Nat.max_zero _)).symm

end Node

namespace Template

mutual

theorem height_unadorned : ∀ τ : Template,
    τ.unadorned.height ≤ τ.height ∧ τ.height ≤ τ.unadorned.height + 1
  | .root children => by
    have inner := heightAll_unadorned children
    simp only [unadorned, height]
    omega
  | .container children pos => by
    have inner := heightAll_unadorned children
    simp only [unadorned, height]
    omega
  | .element kind tag attrs children pos body => by
    simp only [unadorned, height, List.isEmpty_nil, if_true]
    split <;> omega
  | .other tag opening children pos => ⟨Nat.le_refl _, Nat.le_succ _⟩

theorem heightAll_unadorned : ∀ cs : List Template,
    heightAll (unadornedAll cs) ≤ heightAll cs ∧ heightAll cs ≤ heightAll (unadornedAll cs) + 1
  | [] => ⟨Nat.le_refl _, Nat.zero_le _⟩
  | c :: cs => by
    have first := height_unadorned c
    have rest := heightAll_unadorned cs
    simp only [unadornedAll, heightAll]
    omega

end

end Template

namespace Tree

open Template

variable {t : Tree}

theorem height_nested (wf : WellFormed t) (id : Nat) :
    (nested t id).height =
      max (heightAll ((t.children id).map (nested t))) (t.node id).fringe + 1 := by
  rw [nested_eq wf, Node.height_template]

theorem height_child (wf : WellFormed t) {id child : Nat} (member : child ∈ t.children id) :
    (nested t child).height < (nested t id).height := by
  have own := height_le_all (List.mem_map_of_mem (f := nested t) member)
  rw [height_nested wf id]
  omega

theorem height_path (wf : WellFormed t) (n id : Nat)
    (linked : ∀ step < n, id + step + 1 ∈ t.children (id + step)) :
    n + (t.node (id + n)).fringe < (nested t id).height := by
  induction n generalizing id with
  | zero =>
      rw [height_nested wf, Nat.add_zero]
      omega
  | succ n ih =>
      have first : id + 1 ∈ t.children id := linked 0 (Nat.succ_pos n)
      have above := height_child wf first
      have below := ih (id + 1) fun step less => by
        have next := linked (step + 1) (Nat.succ_lt_succ less)
        rwa [Nat.add_comm step 1, ← Nat.add_assoc] at next
      rw [Nat.add_right_comm, Nat.add_assoc] at below
      omega

theorem heightAll_places (f : Nat → Template) (k : Nat) (cs : List Template)
    (each : ∀ place ∈ places k cs, (f place.1).height = place.2.height) :
    heightAll (((places k cs).map (·.1)).map f) = heightAll cs := by
  induction cs generalizing k with
  | nil => rfl
  | cons c cs ih =>
      have rest := ih (k + c.size) fun place member => each place (List.mem_cons_of_mem _ member)
      rw [places, List.map_cons, List.map_cons, heightAll, heightAll, rest,
        each (k, c) List.mem_cons_self]

theorem height_stands (wf : WellFormed t) {id : Nat} {τ : Template} (stands : t.Stands id τ) :
    (nested t id).height = τ.height := by
  induction stands with
  | @node id τ content links below ih =>
      have fringe : (t.node id).fringe = τ.head.fringe := by
        rw [← content]
        rfl
      rw [height_nested wf, links, heightAll_places _ _ _ ih, fringe, height_eq]

theorem height_ofTemplate (τ : Template) :
    (ofTemplate τ).toTemplate.height = τ.height + if τ.isRoot then 0 else 1 := by
  have wf := wellFormed_of_reachable (reachable_ofTemplate τ)
  have grown := grown_ofTemplate τ
  have links : (ofTemplate τ).children 0 = (places 1 τ.tops).map (·.1) :=
    congrArg Node.children grown.parent
  have fringe : ((ofTemplate τ).node 0).fringe = 0 := congrArg Node.fringe grown.parent
  have below := heightAll_places (nested (ofTemplate τ)) 1 τ.tops
    fun place member => height_stands wf (grown.below place member)
  rw [toTemplate_eq wf, height_nested wf, links, below, fringe, Nat.max_zero, heightAll_tops]

theorem height_detachAll (wf : WellFormed t) (ids : List Nat) (id : Nat) :
    (nested (t.detachAll ids) id).height ≤ (nested t id).height := by
  induction id using wf.induction with
  | step id ih =>
      have fringe : ((t.detachAll ids).node id).fringe = (t.node id).fringe :=
        view_detachAll Node.fringe t ids id fun _ => rfl
      have inner : heightAll (((t.detachAll ids).children id).map (nested (t.detachAll ids))) ≤
          heightAll ((t.children id).map (nested t)) := by
        rw [heightAll_le, wf.children_detachAll]
        intro c member
        obtain ⟨child, kept, rfl⟩ := List.mem_map.mp member
        have own := (List.mem_filter.mp kept).1
        exact Nat.le_trans (ih child own) (height_le_all (List.mem_map_of_mem own))
      rw [height_nested wf, height_nested (wellFormed_detachAll wf ids), fringe]
      omega

end Tree

end TemplateWiring
