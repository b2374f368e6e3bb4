import TemplateWiring.Inline
import TemplateWiring.Style
import TemplateWiring.Template.Walk

/-! The roots of a template: the elements and custom tags that are reached from the top through
containers only. Style blocks and inline classes met on the way are taken out. -/

namespace TemplateWiring

structure Roots where
  /-- In document order. -/
  nodes : List Nat := []
  legacyBind : Bool := false
  idCount : Nat := 0
  /-- The last element with an `id`, and the value of it. -/
  idNode : Option Nat := none
  id : Option AttrValue := none
  deriving DecidableEq, Repr

namespace Roots

def add (r : Roots) (id : Nat) : Roots := { r with nodes := r.nodes ++ [id] }

def countId (r : Roots) (id : Nat) (value : Option AttrValue) : Roots :=
  match value with
  | none => r
  | some value => { r with idCount := r.idCount + 1, idNode := some id, id := some value }

structure Search where
  document : Document
  roots : Roots := {}
  deriving DecidableEq, Repr

def visitElement (s : Search) (n : Node) (id : Nat) : Visit Search Failure :=
  if Attr.has n.attrs s.document.options.legacyBindAttribute then
    { state := ⟨s.document.markBound, { s.roots with legacyBind := true }⟩, verdict := .prune }
  else
    let roots := s.roots.countId id (Attr.lookup? n.attrs "id")
    if n.isTag "style" then
      let (document, outcome) := Style.extract n id s.document
      { state := ⟨document, roots⟩, detach := outcome.leaving id, verdict := .prune }
    else { state := ⟨s.document, roots.add id⟩, verdict := .prune }

def visitOther (s : Search) (n : Node) (id : Nat) : Visit Search Failure :=
  if n.isTag "class" then
    match Inline.convert n id s.document with
    | .error e => { state := s, verdict := .fail e }
    | .ok (document, outcome) =>
      { state := ⟨document, s.roots⟩, detach := outcome.leaving id, verdict := .prune }
  else { state := s, verdict := .prune }

def visit : Visitor Search Failure := fun s t id =>
  let n := t.node id
  match n.kind with
  | .root | .container => { state := s, verdict := .descend }
  | .element => visitElement s n id
  | .custom => { state := { s with roots := s.roots.add id }, verdict := .prune }
  | .other => visitOther s n id

def collect (t : Tree) (d : Document) : Walk Search Failure := Walk.run visit { document := d } t

end Roots

end TemplateWiring
