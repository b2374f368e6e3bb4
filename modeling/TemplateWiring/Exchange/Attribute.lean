import TemplateWiring.Json.Decode
import TemplateWiring.Template.Attribute

namespace TemplateWiring

open Json (Decoder Shape Slot Adjacent Case)

namespace AttrValue

def toJson : AttrValue → Json
  | text s => .obj [("kind", .str "static"), ("value", .str s)]
  | code s => .obj [("kind", .str "dynamic"), ("value", .str s)]
  | bare => .obj [("kind", .str "empty")]

def adjacent : Adjacent AttrValue where
  title := "AttributeValue"
  tag := "kind"
  content := "value"
  cases :=
    [⟨"static", fun source r => (Decoder.string source r).map text, none⟩,
      ⟨"dynamic", fun source r => (Decoder.string source r).map code, none⟩,
      Case.constant "AttributeValue" "empty" "Empty" bare]

def decode : Decoder AttrValue := adjacent.decode

end AttrValue

namespace Attr

def toJson (a : Attr) : Json := .obj [("name", .str a.name), ("value", a.value.toJson)]

def shape : Shape Attr where
  title := "struct AttributeIR"
  blank := ⟨"", .bare⟩
  fields :=
    [Slot.required "name" Decoder.string fun name a => { a with name := name },
      Slot.defaulted "value" AttrValue.decode fun value a => { a with value := value }]

def decode : Decoder Attr := shape.decode

end Attr

end TemplateWiring
