import TemplateWiring.Proofs.Tree.Grafting
import TemplateWiring.Proofs.Tree.Nested

namespace TemplateWiring

namespace Template

mutual

/-- As it stands below another template: a root counts as a container at position 0. -/
def held : Template → Template
  | .root children => .container (heldAll children) 0
  | .container children pos => .container (heldAll children) pos
  | .element kind tag attrs children pos body => .element kind tag attrs (heldAll children) pos body
  | .other tag opening children pos => .other tag opening (heldAll children) pos

def heldAll : List Template → List Template
  | [] => []
  | c :: cs => held c :: heldAll cs

end

def normal : Template → Template
  | .root children => .root (heldAll children)
  | template => .root [template.held]

mutual

def preorder : Template → List Template
  | .root children => .root children :: preorderAll children
  | .container children pos => .container children pos :: preorderAll children
  | .element kind tag attrs children pos body =>
    .element kind tag attrs children pos body :: preorderAll children
  | .other tag opening children pos => .other tag opening children pos :: preorderAll children

def preorderAll : List Template → List Template
  | [] => []
  | c :: cs => preorder c ++ preorderAll cs

end

theorem normal_eq (τ : Template) : τ.normal = .root (heldAll τ.tops) := by
  cases τ <;> rfl

theorem held_eq (τ : Template) : τ.head.template (heldAll τ.children) = τ.held := by
  cases τ with
  | element kind => cases kind <;> rfl
  | _ => rfl

theorem heldAll_map (ids : List Nat) (f : Nat → Template) :
    heldAll (ids.map f) = ids.map fun id => (f id).held := by
  induction ids with
  | nil => rfl
  | cons id rest ih => rw [List.map_cons, heldAll, ih, List.map_cons]

theorem heldAll_places (f : Nat → Template) (k : Nat) (cs : List Template)
    (each : ∀ place ∈ places k cs, f place.1 = place.2.held) :
    ((places k cs).map (·.1)).map f = heldAll cs := by
  induction cs generalizing k with
  | nil => rfl
  | cons c rest ih =>
      have first : f k = c.held := each (k, c) List.mem_cons_self
      have later := ih (k + c.size) fun place member => each place (List.mem_cons_of_mem _ member)
      rw [places, List.map_cons, List.map_cons, first, later, heldAll]

theorem preorderAll_map (ids : List Nat) (f : Nat → Template) :
    preorderAll (ids.map f) = ids.flatMap fun id => (f id).preorder := by
  induction ids with
  | nil => rfl
  | cons id rest ih => rw [List.map_cons, preorderAll, ih, List.flatMap_cons]

end Template

namespace Node

variable (n : Node) (cs : List Template)

theorem held_template (below : n.kind ≠ .root) :
    (n.template cs).held = n.template (Template.heldAll cs) := by
  simp only [template]
  cases kind : n.kind with
  | root => exact absurd kind below
  | _ => rfl

theorem preorder_template :
    (n.template cs).preorder = n.template cs :: Template.preorderAll cs := by
  simp only [template]
  cases n.kind <;> rfl

end Node

namespace Tree

open Template

variable {t : Tree}

theorem nested_stands (wf : WellFormed t) {id : Nat} {τ : Template} (stands : t.Stands id τ) :
    nested t id = τ.held := by
  induction stands with
  | @node id τ content links below ih =>
      calc
        nested t id = (t.node id).content.template ((t.children id).map (nested t)) :=
          nested_eq wf id
        _ = τ.head.template (heldAll τ.children) := by
          rw [content, links, heldAll_places (nested t) _ _ ih]
        _ = τ.held := held_eq τ

theorem toTemplate_ofTemplate (τ : Template) : (ofTemplate τ).toTemplate = τ.normal := by
  have wf := wellFormed_of_reachable (reachable_ofTemplate τ)
  have grown := grown_ofTemplate τ
  have root : ((ofTemplate τ).node 0).kind = .root := congrArg Node.kind grown.parent
  have links : (ofTemplate τ).children 0 = (places 1 τ.tops).map (·.1) :=
    congrArg Node.children grown.parent
  have below := heldAll_places (nested (ofTemplate τ)) 1 τ.tops
    fun place member => nested_stands wf (grown.below place member)
  rw [toTemplate_eq wf, nested_eq wf, Node.template, root, links, below, normal_eq]

theorem kind_ne_root (wf : WellFormed t) {id : Nat} (below : id ≠ 0) :
    (t.node id).kind ≠ .root := by
  by_cases inside : id < t.size
  · intro root
    exact below ((wf.top id inside).mp root)
  · rw [t.node_outside id (Nat.not_lt.mp inside)]
    simp

/-- No root stands below the top, so nothing counts as something else there. -/
theorem held_nested (wf : WellFormed t) (id : Nat) :
    id ≠ 0 → (nested t id).held = nested t id := by
  induction id using wf.induction with
  | step id ih =>
      intro below
      have children : heldAll ((t.children id).map (nested t)) =
          (t.children id).map (nested t) := by
        rw [heldAll_map]
        apply List.map_congr_left
        intro child member
        have upward := wf.child_above member
        exact ih child member (by omega)
      rw [nested_eq wf, Node.held_template _ _ (kind_ne_root wf below), children]

theorem normal_toTemplate (wf : WellFormed t) : t.toTemplate.normal = t.toTemplate := by
  have root : (t.node 0).kind = .root := (wf.top 0 wf.rooted).mpr rfl
  have children : heldAll ((t.children 0).map (nested t)) = (t.children 0).map (nested t) := by
    rw [heldAll_map]
    apply List.map_congr_left
    intro child member
    have upward := wf.child_above member
    exact held_nested wf child (by omega)
  rw [toTemplate_eq wf, nested_eq wf, Node.template, root, normal, children]

theorem preorder_nested (wf : WellFormed t) (id : Nat) :
    (nested t id).preorder = (t.subtree id).map (nested t) := by
  induction id using wf.induction with
  | step id ih =>
      have children : preorderAll ((t.children id).map (nested t)) =
          ((t.children id).flatMap t.subtree).map (nested t) := by
        rw [preorderAll_map, List.map_flatMap, List.flatMap_def, List.flatMap_def,
          List.map_congr_left ih]
      calc
        (nested t id).preorder = nested t id :: preorderAll ((t.children id).map (nested t)) := by
          rw [nested_eq wf, Node.preorder_template]
        _ = (t.subtree id).map (nested t) := by rw [children, subtree_eq wf, List.map_cons]

/-- A template that is numbered comes back in its normal form, each number standing for the template
that has this place in document order, and a tree that has been edited comes back as it was
written. -/
theorem normal_form_round_trip :
    (∀ τ : Template,
      (ofTemplate τ).toTemplate = τ.normal ∧ (ofTemplate τ).size = τ.normal.size ∧
        (ofTemplate τ).documentOrder = List.range (ofTemplate τ).size ∧
        (List.range (ofTemplate τ).size).map (nested (ofTemplate τ)) = τ.normal.preorder) ∧
      ∀ t : Tree, Reachable t → (ofTemplate t.toTemplate).toTemplate = t.toTemplate := by
  constructor
  · intro τ
    have wf := wellFormed_of_reachable (reachable_ofTemplate τ)
    have normal := toTemplate_ofTemplate τ
    have order := documentOrder_ofTemplate τ
    rw [toTemplate_eq wf] at normal
    refine ⟨toTemplate_ofTemplate τ, ?_, order, ?_⟩
    · rw [← normal, size_nested wf]
      change _ = (ofTemplate τ).documentOrder.length
      rw [order, List.length_range]
    · rw [← normal, preorder_nested wf, ← order]
      rfl
  · intro t built
    rw [toTemplate_ofTemplate, normal_toTemplate (wellFormed_of_reachable built)]

def layeredPage : Template :=
  .element .custom "app-list" [⟨"key", .text "a"⟩, ⟨"key", .code "b()"⟩]
    [.root [.other none (some "class { }") [] 7], .container [.container [] 3] 2] 1 (some "x")

theorem layeredPage_round_trip :
    (ofTemplate layeredPage).toTemplate =
        .root [.element .custom "app-list" [⟨"key", .text "a"⟩, ⟨"key", .code "b()"⟩]
          [.container [.other none (some "class { }") [] 7] 0, .container [.container [] 3] 2] 1
          (some "x")] ∧
      let t := (ofTemplate layeredPage).detach 2
      Reachable t ∧ (ofTemplate t.toTemplate).toTemplate = t.toTemplate := by
  obtain ⟨numbered, written⟩ := normal_form_round_trip
  obtain ⟨normal, size, -, -⟩ := numbered layeredPage
  have built : Reachable ((ofTemplate layeredPage).detach 2) :=
    .detach (reachable_ofTemplate layeredPage) (by rw [size]; decide)
  exact ⟨normal, built, written _ built⟩

end Tree

end TemplateWiring
