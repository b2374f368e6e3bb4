import TemplateWiring.Exchange.Template
import TemplateWiring.Document

namespace TemplateWiring

open Json (Decoder Shape Slot Tagged Variant)

namespace Options

def toJson (o : Options) : Json :=
  .obj [("templateExtension", .str o.templateExtension),
    ("legacyBindAttribute", .str o.legacyBindAttribute),
    ("boundRootAttribute", .str o.boundRootAttribute), ("keyPrefix", .str o.keyPrefix),
    ("componentConstantName", .str o.componentConstantName),
    ("createHookName", .str o.createHookName)]

def field (name : String) (store : String → Options → Options) : Slot Options :=
  Slot.defaulted name Decoder.string store

def shape : Shape Options where
  title := "struct TransformOptions"
  blank := {}
  fields :=
    [field "templateExtension" fun s o => { o with templateExtension := s },
      field "legacyBindAttribute" fun s o => { o with legacyBindAttribute := s },
      field "boundRootAttribute" fun s o => { o with boundRootAttribute := s },
      field "keyPrefix" fun s o => { o with keyPrefix := s },
      field "componentConstantName" fun s o => { o with componentConstantName := s },
      field "createHookName" fun s o => { o with createHookName := s }]

def decode : Decoder Options := shape.decode

end Options

namespace Module

def toJson : Module → Json
  | file filename requirePath =>
    .obj [("kind", .str "file"), ("filename", .str filename), ("requirePath", .str requirePath)]
  | inline constant filename requirePath =>
    .obj [("kind", .str "inline"), ("inlineId", .str constant), ("filename", .str filename),
      ("requirePath", .str requirePath)]

structure Parts where
  constant : String := ""
  filename : String := ""
  requirePath : String := ""
  deriving DecidableEq, Repr

def constantField : Slot Parts :=
  Slot.required "inlineId" Decoder.string fun s p => { p with constant := s }

def filenameField : Slot Parts :=
  Slot.required "filename" Decoder.string fun s p => { p with filename := s }

def requirePathField : Slot Parts :=
  Slot.required "requirePath" Decoder.string fun s p => { p with requirePath := s }

def fileShape : Shape Parts :=
  ⟨"struct variant ModuleDescriptor::File", {}, [filenameField, requirePathField]⟩

def inlineShape : Shape Parts :=
  ⟨"struct variant ModuleDescriptor::Inline", {},
    [constantField, filenameField, requirePathField]⟩

def tagged : Tagged Module where
  title := "ModuleDescriptor"
  tag := "kind"
  variants :=
    [⟨"file", fun source r =>
        (fileShape.decode source r).map fun p => file p.filename p.requirePath⟩,
      ⟨"inline", fun source r =>
        (inlineShape.decode source r).map fun p => inline p.constant p.filename p.requirePath⟩]

def decode : Decoder Module := tagged.decode

end Module

namespace StyleBlock

def toJson (b : StyleBlock) : Json :=
  .obj [("type", .str b.language), ("code", .str b.code), ("virtualPath", .str b.virtualPath),
    ("path", .str b.path)]

def shape : Shape StyleBlock where
  title := "struct StyleDependency"
  blank := ⟨"", "", "", ""⟩
  fields :=
    [Slot.required "type" Decoder.string fun s b => { b with language := s },
      Slot.required "code" Decoder.string fun s b => { b with code := s },
      Slot.required "virtualPath" Decoder.string fun s b => { b with virtualPath := s },
      Slot.required "path" Decoder.string fun s b => { b with path := s }]

end StyleBlock

namespace Dependency

def toJson : Dependency → Json
  | path s => .str s
  | style b => b.toJson

/-- A text is a path; all else has to be a style block. -/
def decode : Decoder Dependency := fun source r => do
  source.readWhole r
  match r with
  | .str s => return path s
  | r =>
    match StyleBlock.shape.decode .held r with
    | .ok b => return style b
    | .error _ => throw (.noVariant "Dependency")

end Dependency

namespace Constant

def toJson (c : Constant) : Json := .obj [("name", .str c.name), ("source", .str c.source)]

def shape : Shape Constant where
  title := "struct StaticVar"
  blank := ⟨"", ""⟩
  fields :=
    [Slot.required "name" Decoder.string fun s c => { c with name := s },
      Slot.required "source" Decoder.string fun s c => { c with source := s }]

def decode : Decoder Constant := shape.decode

end Constant

namespace Diagnostic

def toJson (d : Diagnostic) : Json :=
  .obj [("code", .str d.code), ("message", .str d.message), ("rule", .str d.rule),
    ("file", .str d.file), ("pos", .int d.pos.toNat),
    ("node", match d.node with
      | none => .null
      | some id => .int id)]

def shape : Shape Diagnostic where
  title := "struct CompilerError"
  blank := ⟨"", "", "", "", 0, none⟩
  fields :=
    [Slot.required "code" Decoder.string fun s d => { d with code := s },
      Slot.required "message" Decoder.string fun s d => { d with message := s },
      Slot.required "rule" Decoder.string fun s d => { d with rule := s },
      Slot.required "file" Decoder.string fun s d => { d with file := s },
      Slot.required "pos" Decoder.word32 fun n d => { d with pos := n },
      Slot.nullable "node" Decoder.size fun id d => { d with node := id }]

def decode : Decoder Diagnostic := shape.decode

end Diagnostic

end TemplateWiring
