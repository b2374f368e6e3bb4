import TemplateWiring.Proofs.Tree.Grafting

namespace TemplateWiring.Tree

inductive Edit where
  | append (parent : Nat) (n : Node)
  | detach (id : Nat)
  | setAttr (id : Nat) (name : String) (value : AttrValue)

namespace Edit

def apply (t : Tree) : Edit → Tree
  | append parent n => t.append parent n
  | detach id => t.detach id
  | setAttr id name value => t.setAttr id name value

/-- The node it names exists, and a node that is added is new. -/
def Fits (t : Tree) : Edit → Prop
  | append parent n => parent < t.size ∧ n.Fresh
  | detach id => id < t.size
  | setAttr id _ _ => id < t.size

def adds : Edit → Bool
  | append .. => true
  | detach .. | setAttr .. => false

end Edit

inductive Edited : Tree → List Edit → Tree → Prop
  | nil (t : Tree) : Edited t [] t
  | cons {t u : Tree} {edit : Edit} {rest : List Edit} (fits : edit.Fits t)
      (later : Edited (edit.apply t) rest u) : Edited t (edit :: rest) u

variable {t u : Tree}

theorem reachable_apply {edit : Edit} (built : Reachable t) (fits : edit.Fits t) :
    Reachable (edit.apply t) := by
  cases edit with
  | append parent n => exact .append built fits.1 fits.2
  | detach id => exact .detach built fits
  | setAttr id name value => exact .setAttr built fits name value

theorem reachable_edited {edits : List Edit} (edited : Edited t edits u) :
    Reachable t → Reachable u := by
  induction edited with
  | nil => exact fun built => built
  | cons fits _ ih => exact fun built => ih (reachable_apply built fits)

theorem size_apply {edit : Edit} (keeps : edit.adds = false) :
    (edit.apply t).size = t.size := by
  cases edit with
  | append => cases keeps
  | detach id => exact size_detach t id
  | setAttr id name value => exact size_setAttr t id name value

theorem size_edited {edits : List Edit} (edited : Edited t edits u)
    (keep : ∀ edit ∈ edits, edit.adds = false) : u.size = t.size := by
  induction edited with
  | nil => rfl
  | cons _ _ ih =>
      rw [ih (fun edit member => keep edit (List.mem_cons_of_mem _ member)),
        size_apply (keep _ List.mem_cons_self)]

/-- The links of a tree in shape: they agree in both directions, lead to greater numbers, and leave
out what has been detached. -/
structure Linkage (t : Tree) : Prop where
  agree : ∀ parent child, child ∈ t.children parent ↔ (t.node child).parent = some parent
  distinct : ∀ parent, (t.children parent).Nodup
  upward : ∀ parent, ∀ child ∈ t.children parent, parent < child
  increasing : ∀ parent, (t.children parent).Pairwise (· < ·)
  detached : ∀ id, t.isDetached id = true →
    (t.node id).parent = none ∧ ∀ parent, id ∉ t.children parent
  held : ∀ id < t.size, id ≠ 0 → t.isDetached id = false → ∃ parent, (t.node id).parent = some parent
  root : ∀ id < t.size, (t.node id).kind = .root ↔ id = 0
  acyclic : ∀ id, ¬ Relation.TransGen (fun parent child => child ∈ t.children parent) id id

theorem below_of_path (wf : WellFormed t) {above below : Nat}
    (path : Relation.TransGen (fun parent child => child ∈ t.children parent) above below) :
    above < below := by
  induction path with
  | single link => exact wf.child_above link
  | tail _ link ih => exact Nat.lt_trans ih (wf.child_above link)

theorem WellFormed.linkage (wf : WellFormed t) : Linkage t := by
  constructor
  · exact wf.linked
  · exact wf.children_nodup
  · exact fun _ _ member => wf.child_above member
  · exact wf.ordered
  · intro id gone
    have alone := wf.left id gone
    refine ⟨alone, ?_⟩
    intro parent member
    rw [wf.linked, alone] at member
    cases member
  · intro id inside positive present
    exact Option.ne_none_iff_exists'.mp
      (wf.held id (Nat.pos_of_ne_zero positive) inside present)
  · exact wf.top
  · intro id cycle
    exact Nat.lt_irrefl id (below_of_path wf cycle)

end TemplateWiring.Tree
