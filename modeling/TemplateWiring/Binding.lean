import TemplateWiring.Roots

namespace TemplateWiring

inductive Decision where
  | legacyExplicitBind
  | noBoundComponent
  | noRootNodes
  /-- Several roots, and an `id` among the elements. -/
  | ambiguousIds
  /-- The number of roots, and the keys given out, in order. -/
  | bound (rootCount : Nat) (keys : List String)
  deriving DecidableEq, Repr

namespace Binding

def isKeyed (t : Tree) (id : Nat) : Bool := t.hasAttr id "key" || t.hasAttr id "ref"

/-- A custom tag needs a key, and so does every one of several roots. -/
def needsKey (t : Tree) (several : Bool) (id : Nat) : Bool :=
  !isKeyed t id && ((t.node id).kind == .custom || several)

def keyText (o : Options) (k : Nat) : String := o.keyPrefix ++ toString k

def markAll (o : Options) (several : Bool) (t : Tree) (next : Nat) :
    List Nat → Tree × List String
  | [] => (t, [])
  | id :: ids =>
    let marked := t.setAttr id o.boundRootAttribute .bare
    if needsKey marked several id then
      let key := keyText o next
      let (t, keys) := markAll o several (marked.setAttr id "key" (.text key)) (next + 1) ids
      (t, key :: keys)
    else markAll o several marked next ids

def bind (t : Tree) (d : Document) (r : Roots) : Tree × Document × Decision :=
  if r.legacyBind then (t, d, .legacyExplicitBind)
  else if !d.isBound then (t, d, .noBoundComponent)
  else if r.nodes = [] then (t, d, .noRootNodes)
  else
    let several := decide (1 < r.nodes.length)
    if several && 0 < r.idCount then (t, d, .ambiguousIds)
    else
      let (t, keys) := markAll d.options several t 0 r.nodes
      (t, d.markBound, .bound r.nodes.length keys)

end Binding

end TemplateWiring
