import TemplateWiring.Path
import TemplateWiring.Text.Word

/-! Names of the files that belong to a document: its base name, a dot, a word for the role, a dot
and an extension. A document with the base name `index` also owns the names without its own. -/

namespace TemplateWiring.Sibling

/-- A file name without its extension; none when the extension is that of templates, and none when
the path names no file. -/
def baseName? (filename templateExtension : String) : Option String :=
  match Path.fileName? filename.toList with
  | none => none
  | some name =>
    let (stem, extension) := Path.splitExtension name
    if extension = some (templateExtension.toList.dropWhile (· = '.')) then none
    else if stem = [] then none
    else some (String.ofList stem)

inductive Role where
  | style
  | splitComponent
  | component
  deriving DecidableEq, Repr

namespace Role

def word : Role → String
  | style => "style"
  | splitComponent => "component-browser"
  | component => "component"

def all : List Role := [style, splitComponent, component]

end Role

def leads (base : List Char) : List (List Char) :=
  if base = "index".toList then [base ++ ['.'], []] else [base ++ ['.']]

def isExtension : List Char → Bool
  | '.' :: ext => ext ≠ [] && ext.all Text.isWord
  | _ => false

def hasRole (base name : List Char) (role : Role) : Bool :=
  (leads base).any fun lead =>
    match Text.after? (lead ++ role.word.toList) name with
    | some rest => isExtension rest
    | none => false

def classify (base name : String) : Option Role :=
  Role.all.find? (hasRole base.toList name.toList)

end TemplateWiring.Sibling
