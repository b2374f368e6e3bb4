import TemplateWiring.Exchange.Attribute
import TemplateWiring.Template.Nested

namespace TemplateWiring

open Json (Decoder Shape Slot Tagged Variant)

def optionalText : Option String → Json
  | none => .null
  | some s => .str s

namespace Template

mutual

def toJson : Template → Json
  | root children => .obj [("type", .str "TemplateRoot"), ("children", .arr (allToJson children))]
  | container children pos =>
    .obj [("type", .str "Container"), ("children", .arr (allToJson children)),
      ("pos", .int pos.toNat)]
  | element kind tag attrs children pos body =>
    .obj [("type", .str (match kind with
        | .html => "HtmlElement"
        | .custom => "CustomTag")),
      ("tagName", .str tag), ("attributes", .arr (attrs.map Attr.toJson)),
      ("children", .arr (allToJson children)), ("pos", .int pos.toNat),
      ("bodyText", optionalText body)]
  | other tag opening children pos =>
    .obj [("type", .str "Other"), ("tagName", optionalText tag),
      ("tagString", optionalText opening), ("children", .arr (allToJson children)),
      ("pos", .int pos.toNat)]

def allToJson : List Template → List Json
  | [] => []
  | t :: ts => toJson t :: allToJson ts

end

structure Parts where
  tag : String := ""
  optionalTag : Option String := none
  opening : Option String := none
  attrs : List Attr := []
  children : List Template := []
  pos : UInt32 := 0
  body : Option String := none
  deriving Repr

namespace Parts

def tagField : Slot Parts :=
  Slot.required "tagName" Decoder.string fun tag p => { p with tag := tag }

def optionalTagField : Slot Parts :=
  Slot.defaulted "tagName" (Decoder.nullable Decoder.string) fun tag p =>
    { p with optionalTag := tag }

def openingField : Slot Parts :=
  Slot.defaulted "tagString" (Decoder.nullable Decoder.string) fun opening p =>
    { p with opening := opening }

def attrsField : Slot Parts :=
  Slot.defaulted "attributes" (Decoder.list Attr.decode) fun attrs p => { p with attrs := attrs }

def childrenField (child : Decoder Template) : Slot Parts :=
  Slot.defaulted "children" (Decoder.list child) fun children p =>
    { p with children := children }

def posField : Slot Parts :=
  Slot.defaulted "pos" Decoder.word32 fun pos p => { p with pos := pos }

def bodyField : Slot Parts :=
  Slot.defaulted "bodyText" (Decoder.nullable Decoder.string) fun body p =>
    { p with body := body }

end Parts

def variant (name title : String) (fields : List (Slot Parts)) (make : Parts → Template) :
    Variant Template where
  name := name
  decode := fun source r => ((Shape.mk title {} fields).decode source r).map make

def elementFields (child : Decoder Template) : List (Slot Parts) :=
  [Parts.tagField, Parts.attrsField, Parts.childrenField child, Parts.posField, Parts.bodyField]

def makeElement (kind : ElementKind) (p : Parts) : Template :=
  element kind p.tag p.attrs p.children p.pos p.body

def tagged (child : Decoder Template) : Tagged Template where
  title := "TemplateNode"
  tag := "type"
  variants :=
    [variant "TemplateRoot" "struct variant TemplateNode::TemplateRoot"
        [Parts.childrenField child] fun p => root p.children,
      variant "Container" "struct variant TemplateNode::Container"
        [Parts.childrenField child, Parts.posField] fun p => container p.children p.pos,
      variant "HtmlElement" "struct ElementNode" (elementFields child) (makeElement .html),
      variant "CustomTag" "struct ElementNode" (elementFields child) (makeElement .custom),
      variant "Other" "struct OtherNode"
        [Parts.optionalTagField, Parts.openingField, Parts.childrenField child, Parts.posField]
        fun p => other p.optionalTag p.opening p.children p.pos]

def decodeTo : (depth : Nat) → Decoder Template
  | 0 => (tagged fun _ _ => .error .tooDeep).decode
  | depth + 1 => (tagged (decodeTo depth)).decode

/-- A node is nested no deeper than the collections of its text. -/
def decode : Decoder Template := fun source r => decodeTo r.depth source r

end Template

end TemplateWiring
