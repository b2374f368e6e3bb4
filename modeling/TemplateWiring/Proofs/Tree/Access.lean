import TemplateWiring.Template.Tree

/-! What each operation on a tree does to each node of it. Later modules argue from these equations
and leave the operations closed. -/

namespace TemplateWiring

/-- A node without its links: what detaching leaves alone. -/
def Node.content (n : Node) : Node := { n with children := [], parent := none, detached := false }

theorem Node.eq_of_links {m n : Node} (content : m.content = n.content)
    (children : m.children = n.children) (parent : m.parent = n.parent)
    (detached : m.detached = n.detached) : m = n := by
  cases m
  cases n
  simp_all [Node.content]

namespace Tree

variable (t : Tree) (id other : Nat)

theorem node_outside (outside : t.size ≤ id) : t.node id = { kind := .container } := by
  simp only [node, Array.getD_eq_getD_getElem?]
  rw [Array.getElem?_eq_none outside]
  rfl

theorem eq_of_nodes {t u : Tree} (size : t.size = u.size) (nodes : ∀ id, t.node id = u.node id) :
    t = u := by
  obtain ⟨first⟩ := t
  obtain ⟨second⟩ := u
  congr 1
  apply Array.ext size
  intro id inside inside'
  have same := nodes id
  simpa [node, inside, inside'] using same

@[simp] theorem size_update (f : Node → Node) : (t.update id f).size = t.size := by
  simp [size, update]

theorem node_update (f : Node → Node) :
    (t.update id f).node other =
      if id = other ∧ other < t.size then f (t.node other) else t.node other := by
  simp only [node, update, Array.getD_eq_getD_getElem?, Array.getElem?_modify]
  by_cases inside : other < t.size
  · have present : t.nodes[other]? = some t.nodes[other] := Array.getElem?_eq_getElem inside
    by_cases same : id = other <;> simp [same, inside, present]
  · have absent : t.nodes[other]? = none := Array.getElem?_eq_none (Nat.not_lt.mp inside)
    simp [inside, absent]

theorem node_update_ne (f : Node → Node) (ne : id ≠ other) :
    (t.update id f).node other = t.node other := by
  rw [node_update, if_neg (fun both => ne both.1)]

theorem node_update_self (f : Node → Node) (inside : id < t.size) :
    (t.update id f).node id = f (t.node id) := by
  rw [node_update, if_pos ⟨rfl, inside⟩]

theorem update_eq_self (f : Node → Node) (same : f (t.node id) = t.node id) : t.update id f = t := by
  apply eq_of_nodes (size_update _ _ _)
  intro other
  rw [node_update]
  split
  next here => rw [← here.1, same]
  next => rfl

/-- A change that keeps what `view` shows of a node keeps it at every node. -/
theorem view_update {α : Type} (view : Node → α) (f : Node → Node)
    (keeps : ∀ n, view (f n) = view n) :
    view ((t.update id f).node other) = view (t.node other) := by
  rw [node_update]
  split
  · exact keeps _
  · rfl

@[simp] theorem size_append (n : Node) : (t.append id n).size = t.size + 1 := by
  simp [append, size, update]

theorem node_push (n : Node) :
    node ⟨t.nodes.push n⟩ other = if other = t.size then n else t.node other := by
  simp only [node, Array.getD_eq_getD_getElem?, Array.getElem?_push, size]
  by_cases last : other = t.nodes.size <;> simp [last]

theorem node_append (n : Node) (inside : id < t.size) :
    (t.append id n).node other =
      if other = t.size then { n with parent := some id }
      else if other = id then { t.node id with children := t.children id ++ [t.size] }
      else t.node other := by
  have longer : size ⟨t.nodes.push { n with parent := some id }⟩ = t.size + 1 := by simp [size]
  rw [append, node_update, longer, node_push]
  by_cases last : other = t.size
  · have ne : id ≠ t.size := by omega
    simp [last, ne]
  · by_cases same : other = id
    · subst other
      simp [last, children, show id < t.size + 1 by omega]
    · simp [last, same, Ne.symm same]

def disown (n : Node) (child : Nat) : Node := { n with children := n.children.filter (· ≠ child) }

def orphaned (n : Node) : Node := { n with parent := none, detached := true }

theorem detach_alone (alone : (t.node id).parent = none) :
    t.detach id = t.update id orphaned := by
  rw [detach, alone]
  rfl

theorem detach_child {parent : Nat} (found : (t.node id).parent = some parent) :
    t.detach id = (t.update parent (disown · id)).update id orphaned := by
  rw [detach, found]
  rfl

@[simp] theorem size_detach : (t.detach id).size = t.size := by
  cases found : (t.node id).parent with
  | none => rw [detach_alone t id found, size_update]
  | some parent => rw [detach_child t id found, size_update, size_update]

theorem node_detach :
    (t.detach id).node other =
      let n := if (t.node id).parent = some other then disown (t.node other) id else t.node other
      if other = id ∧ id < t.size then orphaned n else n := by
  cases found : (t.node id).parent with
  | none =>
      rw [detach_alone t id found, node_update]
      by_cases same : other = id
      · simp [same]
      · simp [same, Ne.symm same]
  | some parent =>
      have disowned : (t.update parent (disown · id)).node other =
          if some parent = some other then disown (t.node other) id else t.node other := by
        rw [node_update]
        by_cases same : parent = other
        · by_cases inside : other < t.size
          · simp [same, inside]
          · simp [same, inside, t.node_outside other (Nat.not_lt.mp inside), disown]
        · simp [same]
      rw [detach_child t id found, node_update, size_update, disowned]
      by_cases same : other = id
      · simp [same]
      · simp [same, Ne.symm same]

theorem children_detach_parent :
    (t.detach id).children other =
      if (t.node id).parent = some other then (t.children other).filter (· ≠ id)
      else t.children other := by
  rw [children, node_detach]
  by_cases child : (t.node id).parent = some other
  · simp only [if_pos child]
    split <;> rfl
  · simp only [if_neg child]
    split <;> rfl

theorem parent_detach :
    ((t.detach id).node other).parent = if other = id then none else (t.node other).parent := by
  rw [node_detach]
  by_cases same : other = id
  · subst other
    by_cases inside : id < t.size
    · simp [inside, orphaned]
    · simp [t.node_outside id (Nat.not_lt.mp inside), inside]
  · by_cases child : (t.node id).parent = some other <;> simp [same, child, disown]

theorem detached_detach :
    (t.detach id).isDetached other = (t.isDetached other || decide (other = id ∧ id < t.size)) := by
  rw [isDetached, node_detach]
  by_cases same : other = id ∧ id < t.size
  · simp [same, orphaned]
  · dsimp only
    rw [if_neg same, decide_eq_false same, Bool.or_false]
    split <;> rfl

@[simp] theorem content_detach : ((t.detach id).node other).content = (t.node other).content := by
  rw [node_detach]
  dsimp only
  split <;> split <;> rfl

theorem view_detach {α : Type} (view : Node → α) (blind : ∀ n, view n.content = view n) :
    view ((t.detach id).node other) = view (t.node other) := by
  rw [← blind, content_detach, blind]

@[simp] theorem size_setAttr (name : String) (value : AttrValue) :
    (t.setAttr id name value).size = t.size := size_update _ _ _

theorem node_setAttr_ne (name : String) (value : AttrValue) (ne : id ≠ other) :
    (t.setAttr id name value).node other = t.node other := node_update_ne _ _ _ _ ne

theorem node_setAttr_self (name : String) (value : AttrValue) (inside : id < t.size) :
    (t.setAttr id name value).node id =
      { t.node id with attrs := Attr.set (t.node id).attrs name value } :=
  node_update_self _ _ _ inside

theorem view_setAttr {α : Type} (view : Node → α) (name : String) (value : AttrValue)
    (blind : ∀ n attrs, view { n with attrs := attrs } = view n) :
    view ((t.setAttr id name value).node other) = view (t.node other) :=
  view_update _ _ _ view _ (fun n => blind n _)

end Tree

end TemplateWiring
