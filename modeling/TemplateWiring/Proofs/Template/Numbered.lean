import TemplateWiring.Proofs.Tree.Listing

namespace TemplateWiring

namespace Template

def children : Template → List Template
  | .root children | .container children _ | .element _ _ _ children _ _ | .other _ _ children _ =>
    children

/-- What a template is at its top. A root that is held by another template counts as a
container. -/
def head : Template → Node
  | .root _ => { kind := .container }
  | .container _ pos => { kind := .container, pos := pos }
  | .element kind tag attrs _ pos body =>
    let k := match kind with
      | .html => NodeKind.element
      | .custom => NodeKind.custom
    { kind := k, tag := some tag, attrs := attrs, pos := pos, body := body }
  | .other tag opening _ pos => { kind := .other, tag := tag, opening := opening, pos := pos }

mutual

def size : Template → Nat
  | .root children | .container children _ | .element _ _ _ children _ _ | .other _ _ children _ =>
    1 + sizeAll children

def sizeAll : List Template → Nat
  | [] => 0
  | c :: cs => size c + sizeAll cs

end

mutual

/-- The templates that are held by wrappers only, each with its number; `k` is that of the first. -/
def frontier (k : Nat) : Template → List (Nat × Template)
  | .root children => (k, .root children) :: frontierAll (k + 1) children
  | .container children pos => (k, .container children pos) :: frontierAll (k + 1) children
  | .element kind tag attrs children pos body => [(k, .element kind tag attrs children pos body)]
  | .other tag opening children pos => [(k, .other tag opening children pos)]

def frontierAll (k : Nat) : List Template → List (Nat × Template)
  | [] => []
  | c :: cs => frontier k c ++ frontierAll (k + c.size) cs

end

mutual

/-- Without the templates below it that have one of the numbers `gone`; `k` is its own number. -/
def strip (gone : Nat → Bool) (k : Nat) : Template → Template
  | .root children => .root (stripAll gone (k + 1) children)
  | .container children pos => .container (stripAll gone (k + 1) children) pos
  | .element kind tag attrs children pos body =>
    .element kind tag attrs (stripAll gone (k + 1) children) pos body
  | .other tag opening children pos => .other tag opening (stripAll gone (k + 1) children) pos

def stripAll (gone : Nat → Bool) (k : Nat) : List Template → List Template
  | [] => []
  | c :: cs =>
    let rest := stripAll gone (k + c.size) cs
    if gone k then rest else strip gone k c :: rest

end

mutual

def unadorned : Template → Template
  | .root children => .root (unadornedAll children)
  | .container children pos => .container (unadornedAll children) pos
  | .element kind tag _ children pos body => .element kind tag [] children pos body
  | .other tag opening children pos => .other tag opening children pos

def unadornedAll : List Template → List Template
  | [] => []
  | c :: cs => unadorned c :: unadornedAll cs

end

theorem size_eq (τ : Template) : τ.size = 1 + sizeAll τ.children := by
  cases τ <;> rfl

theorem frontier_eq (k : Nat) (τ : Template) : τ.frontier k =
    (k, τ) :: if τ.head.kind.isWrapper then frontierAll (k + 1) τ.children else [] := by
  cases τ with
  | element kind => cases kind <;> rfl
  | _ => rfl

mutual

theorem induction {P : Template → Prop} (step : ∀ τ, (∀ c ∈ τ.children, P c) → P τ) :
    ∀ τ, P τ
  | .root children => step _ (inductionAll step children)
  | .container children _ => step _ (inductionAll step children)
  | .element _ _ _ children _ _ => step _ (inductionAll step children)
  | .other _ _ children _ => step _ (inductionAll step children)

theorem inductionAll {P : Template → Prop} (step : ∀ τ, (∀ c ∈ τ.children, P c) → P τ) :
    ∀ cs : List Template, ∀ c ∈ cs, P c
  | [], _, member => absurd member List.not_mem_nil
  | first :: rest, c, member => by
    rcases List.mem_cons.mp member with same | later
    · rw [same]
      exact induction step first
    · exact inductionAll step rest c later

end

end Template

def Node.template (n : Node) (children : List Template) : Template :=
  match n.kind with
  | .root => .root children
  | .container => .container children n.pos
  | .element => .element .html (n.tag.getD "") n.attrs children n.pos n.body
  | .custom => .element .custom (n.tag.getD "") n.attrs children n.pos n.body
  | .other => .other n.tag n.opening children n.pos

namespace Node

def bare (n : Node) : Node := { n with attrs := [] }

variable (n : Node) (cs : List Template)

theorem size_template : (n.template cs).size = 1 + Template.sizeAll cs := by
  rw [template]
  cases n.kind <;> rfl

theorem strip_template (gone : Nat → Bool) (k : Nat) :
    (n.template cs).strip gone k = n.template (Template.stripAll gone (k + 1) cs) := by
  simp only [template]
  cases n.kind <;> rfl

theorem frontier_template (k : Nat) : (n.template cs).frontier k =
    (k, n.template cs) :: if n.kind.isWrapper then Template.frontierAll (k + 1) cs else [] := by
  simp only [template]
  cases n.kind <;> rfl

theorem unadorned_template : (n.template cs).unadorned =
    n.bare.template (if n.kind.isWrapper then Template.unadornedAll cs else cs) := by
  simp only [template, bare]
  cases n.kind <;> rfl

end Node

end TemplateWiring
