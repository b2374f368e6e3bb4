import TemplateWiring.Binding
import TemplateWiring.Sibling.Scan

/-! The whole pass over one document: its siblings are registered, its roots collected and bound.
A document without a base name is left alone. -/

namespace TemplateWiring

inductive Report where
  | skipped
  | completed (roots : Roots) (decision : Decision)
  deriving DecidableEq, Repr

/-- The tree and the document as the pass leaves them, also when it fails. -/
structure Wiring where
  tree : Tree
  document : Document
  report : Except Failure Report

namespace Wiring

def ofScanned (t : Tree) (d : Document) : Wiring :=
  let w := Roots.collect t d
  match w.error with
  | some e => ⟨w.tree, w.state.document, .error e⟩
  | none =>
    let (tree, document, decision) := Binding.bind w.tree w.state.document w.state.roots
    ⟨tree, document, .ok (.completed w.state.roots decision)⟩

def run (folder : Folder) (t : Tree) (d : Document) : Wiring :=
  match Sibling.baseName? d.filename d.options.templateExtension with
  | none => ⟨t, d, .ok .skipped⟩
  | some base =>
    match Sibling.scan folder base d with
    | .error e => ⟨t, d, .error e⟩
    | .ok d => ofScanned t d

end Wiring

end TemplateWiring
