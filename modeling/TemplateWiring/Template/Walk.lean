import TemplateWiring.Template.Tree

/-! The walk over a tree: depth first, in document order. A visitor is shown each node that is
entered. It may detach nodes, and it says whether the walk goes on into the node's children, leaves
them out, or fails. The children visited are those the node had when it was entered; of them, a
node detached before its turn is not entered. -/

namespace TemplateWiring

inductive Verdict (ε : Type) where
  | descend
  | prune
  | fail (error : ε)
  deriving DecidableEq, Repr

structure Visit (σ ε : Type) where
  state : σ
  detach : List Nat := []
  verdict : Verdict ε

abbrev Visitor (σ ε : Type) := σ → Tree → Nat → Visit σ ε

structure Walk (σ ε : Type) where
  state : σ
  tree : Tree
  error : Option ε := none

namespace Walk

variable {σ ε : Type}

mutual

/-- Enters a node. Only numbers below `bound` and above the parent's are followed. -/
def enter (visit : Visitor σ ε) (bound : Nat) (state : σ) (tree : Tree) (id : Nat) : Walk σ ε :=
  let v := visit state tree id
  let tree := tree.detachAll v.detach
  match v.verdict with
  | .fail e => ⟨v.state, tree, some e⟩
  | .prune => ⟨v.state, tree, none⟩
  | .descend => enterAll visit bound v.state tree id (tree.children id)
termination_by (bound - id, 1, 0)

def enterAll (visit : Visitor σ ε) (bound : Nat) (state : σ) (tree : Tree) (id : Nat) :
    List Nat → Walk σ ε
  | [] => ⟨state, tree, none⟩
  | c :: cs =>
    if tree.isDetached c then enterAll visit bound state tree id cs
    else if _h : id < c ∧ c < bound then
      let w := enter visit bound state tree c
      match w.error with
      | some e => ⟨w.state, w.tree, some e⟩
      | none => enterAll visit bound w.state w.tree id cs
    else enterAll visit bound state tree id cs
termination_by cs => (bound - id, 0, cs.length)

end

/-- The walk from the root, which is entered even when it is detached. -/
def run (visit : Visitor σ ε) (state : σ) (tree : Tree) : Walk σ ε :=
  enter visit tree.size state tree 0

end Walk

end TemplateWiring
