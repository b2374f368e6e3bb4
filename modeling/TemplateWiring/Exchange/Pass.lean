import TemplateWiring.Exchange.Document
import TemplateWiring.Wiring

namespace TemplateWiring

open Json (Decoder Shape Slot Tagged Variant)

namespace Decision

def toJson : Decision → Json
  | legacyExplicitBind => .obj [("decision", .str "legacyExplicitBind")]
  | noBoundComponent => .obj [("decision", .str "noBoundComponent")]
  | noRootNodes => .obj [("decision", .str "noRootNodes")]
  | ambiguousIds => .obj [("decision", .str "ambiguousIds")]
  | bound rootCount keys =>
    .obj [("decision", .str "bound"), ("rootCount", .int rootCount),
      ("keys", .arr (keys.map .str))]

def boundShape : Shape (Nat × List String) where
  title := "struct variant BindingDecision::Bound"
  blank := (0, [])
  fields :=
    [Slot.required "rootCount" Decoder.size fun n p => (n, p.2),
      Slot.required "keys" (Decoder.list Decoder.string) fun keys p => (p.1, keys)]

def tagged : Tagged Decision where
  title := "BindingDecision"
  tag := "decision"
  variants :=
    [Variant.constant "legacyExplicitBind" legacyExplicitBind,
      Variant.constant "noBoundComponent" noBoundComponent,
      Variant.constant "noRootNodes" noRootNodes,
      Variant.constant "ambiguousIds" ambiguousIds,
      ⟨"bound", fun source r => (boundShape.decode source r).map fun p => bound p.1 p.2⟩]

def decode : Decoder Decision := tagged.decode

end Decision

structure Request where
  filename : String
  tree : Template
  options : Options := {}
  deriving Repr

namespace Request

def toJson (r : Request) : Json :=
  .obj [("filename", .str r.filename), ("tree", r.tree.toJson), ("options", r.options.toJson)]

def shape : Shape Request where
  title := "struct TransformInput"
  blank := { filename := "", tree := .root [] }
  fields :=
    [Slot.required "filename" Decoder.string fun s r => { r with filename := s },
      Slot.required "tree" Template.decode fun t r => { r with tree := t },
      Slot.defaulted "options" Options.decode fun o r => { r with options := o }]

def decode : Decoder Request := shape.decode

end Request

def optionalValue {α : Type} (toJson : α → Json) : Option α → Json
  | none => .null
  | some a => toJson a

structure Answer where
  tree : Template
  skipped : Bool
  binding : Option Decision := none
  component : Option Module := none
  renderer : Option Module := none
  dependencies : List Dependency := []
  constants : List Constant := []
  diagnostics : List Diagnostic := []
  deriving Repr

namespace Answer

def toJson (a : Answer) : Json :=
  .obj [("tree", a.tree.toJson), ("skipped", .bool a.skipped),
    ("binding", optionalValue Decision.toJson a.binding),
    ("componentModule", optionalValue Module.toJson a.component),
    ("rendererModule", optionalValue Module.toJson a.renderer),
    ("dependencies", .arr (a.dependencies.map Dependency.toJson)),
    ("staticVars", .arr (a.constants.map Constant.toJson)),
    ("diagnostics", .arr (a.diagnostics.map Diagnostic.toJson))]

def shape : Shape Answer where
  title := "struct TransformOutput"
  blank := { tree := .root [], skipped := false }
  fields :=
    [Slot.required "tree" Template.decode fun t a => { a with tree := t },
      Slot.required "skipped" Decoder.boolean fun b a => { a with skipped := b },
      Slot.nullable "binding" Decision.decode fun b a => { a with binding := b },
      Slot.nullable "componentModule" Module.decode fun m a => { a with component := m },
      Slot.nullable "rendererModule" Module.decode fun m a => { a with renderer := m },
      Slot.required "dependencies" (Decoder.list Dependency.decode) fun ds a =>
        { a with dependencies := ds },
      Slot.required "staticVars" (Decoder.list Constant.decode) fun cs a =>
        { a with constants := cs },
      Slot.required "diagnostics" (Decoder.list Diagnostic.decode) fun ds a =>
        { a with diagnostics := ds }]

def decode : Decoder Answer := shape.decode

def ofWiring (tree : Tree) (d : Document) (report : Report) : Answer where
  tree := tree.toTemplate
  skipped :=
    match report with
    | .skipped => true
    | .completed .. => false
  binding :=
    match report with
    | .skipped => none
    | .completed _ decision => some decision
  component := d.component
  renderer := d.renderer
  dependencies := d.dependencies
  constants := d.constants
  diagnostics := d.diagnostics

end Answer

namespace Request

def run (folder : Folder) (r : Request) : Except Failure Answer :=
  let w := Wiring.run folder (Tree.ofTemplate r.tree) { filename := r.filename, options := r.options }
  match w.report with
  | .error e => .error e
  | .ok report => .ok (Answer.ofWiring w.tree w.document report)

def runText (folder : Folder) (text : String) : Except Failure Answer :=
  match Json.decodeText decode text with
  | .error p => .error (.invalidInput p.message)
  | .ok r => r.run folder

end Request

end TemplateWiring
