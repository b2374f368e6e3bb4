namespace TemplateWiring

inductive AttrValue where
  | text (value : String)
  | code (value : String)
  | bare
  deriving DecidableEq, Repr

structure Attr where
  name : String
  value : AttrValue := .bare
  deriving DecidableEq, Repr

namespace Attr

/-- An attribute written `{ … }` carries code as its name. -/
def isBlock (a : Attr) : Bool := a.name.toList.head? == some '{'

def has (attrs : List Attr) (name : String) : Bool := attrs.any (·.name == name)

def lookup? (attrs : List Attr) (name : String) : Option AttrValue :=
  (attrs.find? (·.name == name)).map (·.value)

def set : List Attr → String → AttrValue → List Attr
  | [], name, value => [⟨name, value⟩]
  | a :: attrs, name, value =>
    if a.name = name then ⟨a.name, value⟩ :: attrs else a :: set attrs name value

end Attr

end TemplateWiring
