import TemplateWiring.Template.Attribute

namespace TemplateWiring

inductive ElementKind where
  | html
  | custom
  deriving DecidableEq, Repr

inductive Template where
  | root (children : List Template)
  | container (children : List Template) (pos : UInt32)
  | element (kind : ElementKind) (tag : String) (attrs : List Attr) (children : List Template)
      (pos : UInt32) (body : Option String)
  | other (tag : Option String) (opening : Option String) (children : List Template)
      (pos : UInt32)
  deriving Repr, Inhabited

end TemplateWiring
