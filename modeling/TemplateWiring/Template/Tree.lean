import TemplateWiring.Template.Nested

/-! A template as numbered nodes. A node keeps its number for good: detaching only unlinks it from
its parent. Node 0 is the root, and a child's number is greater than its parent's. -/

namespace TemplateWiring

inductive NodeKind where
  | root
  | container
  | element
  | custom
  | other
  deriving DecidableEq, Repr

structure Node where
  kind : NodeKind
  tag : Option String := none
  attrs : List Attr := []
  children : List Nat := []
  parent : Option Nat := none
  pos : UInt32 := 0
  body : Option String := none
  opening : Option String := none
  detached : Bool := false
  deriving DecidableEq, Repr

def lowerAscii (s : String) : List Char := s.toList.map Char.toLower

/-- Tags are compared without regard to the case of ASCII letters. -/
def Node.isTag (n : Node) (name : String) : Bool :=
  match n.tag with
  | none => false
  | some tag => lowerAscii tag == lowerAscii name

structure Tree where
  nodes : Array Node
  deriving DecidableEq, Repr

namespace Tree

def empty : Tree := ⟨#[{ kind := .root }]⟩

def size (t : Tree) : Nat := t.nodes.size

def node (t : Tree) (id : Nat) : Node := t.nodes.getD id { kind := .container }

def children (t : Tree) (id : Nat) : List Nat := (t.node id).children

def isDetached (t : Tree) (id : Nat) : Bool := (t.node id).detached

def update (t : Tree) (id : Nat) (f : Node → Node) : Tree := ⟨t.nodes.modify id f⟩

/-- Adds a node as the last child of `parent`; its number is the former size. -/
def append (t : Tree) (parent : Nat) (n : Node) : Tree :=
  update ⟨t.nodes.push { n with parent := some parent }⟩ parent
    fun p => { p with children := p.children ++ [t.size] }

def detach (t : Tree) (id : Nat) : Tree :=
  let unlinked :=
    match (t.node id).parent with
    | none => t
    | some parent => t.update parent fun p => { p with children := p.children.filter (· ≠ id) }
  unlinked.update id fun n => { n with parent := none, detached := true }

def detachAll (t : Tree) (ids : List Nat) : Tree := ids.foldl detach t

def hasAttr (t : Tree) (id : Nat) (name : String) : Bool := Attr.has (t.node id).attrs name

def attr? (t : Tree) (id : Nat) (name : String) : Option AttrValue :=
  Attr.lookup? (t.node id).attrs name

def setAttr (t : Tree) (id : Nat) (name : String) (value : AttrValue) : Tree :=
  t.update id fun n => { n with attrs := Attr.set n.attrs name value }

mutual

def graft (t : Tree) (parent : Nat) : Template → Tree
  | .root children => graftAll (t.append parent { kind := .container }) t.size children
  | .container children pos =>
    graftAll (t.append parent { kind := .container, pos := pos }) t.size children
  | .element kind tag attrs children pos body =>
    let k := match kind with
      | .html => NodeKind.element
      | .custom => NodeKind.custom
    graftAll (t.append parent { kind := k, tag := some tag, attrs := attrs, pos := pos, body := body })
      t.size children
  | .other tag opening children pos =>
    graftAll (t.append parent { kind := .other, tag := tag, opening := opening, pos := pos })
      t.size children

def graftAll (t : Tree) (parent : Nat) : List Template → Tree
  | [] => t
  | c :: cs => graftAll (graft t parent c) parent cs

end

/-- A nested template that is no root becomes the only child of one. -/
def ofTemplate : Template → Tree
  | .root children => graftAll empty 0 children
  | template => graft empty 0 template

mutual

/-- The linked part below a node, nested. Links lead to greater numbers; one that does not is not
followed. -/
def nested (t : Tree) (id : Nat) : Template :=
  let n := t.node id
  let children := nestedAll t id n.children
  match n.kind with
  | .root => .root children
  | .container => .container children n.pos
  | .element => .element .html (n.tag.getD "") n.attrs children n.pos n.body
  | .custom => .element .custom (n.tag.getD "") n.attrs children n.pos n.body
  | .other => .other n.tag n.opening children n.pos
termination_by (t.size - id, 1, 0)

def nestedAll (t : Tree) (id : Nat) : List Nat → List Template
  | [] => []
  | c :: cs =>
    if t.isDetached c then nestedAll t id cs
    else if _h : id < c ∧ c < t.size then nested t c :: nestedAll t id cs
    else nestedAll t id cs
termination_by cs => (t.size - id, 0, cs.length)

end

def toTemplate (t : Tree) : Template := .root (nestedAll t 0 (t.children 0))

end Tree

end TemplateWiring
