import TemplateWiring.Folder
import TemplateWiring.Document
import TemplateWiring.Sibling.Name

/-! The scan of a document's folder. Files are taken from the last name to the first, so that of
several files for one slot the one with the smallest name stays. -/

namespace TemplateWiring.Sibling

def stem (name : String) : String :=
  match Text.splitLast? '.' name.toList with
  | some (a, _) => String.ofList a
  | none => name

def fileModule (dir name : String) : Module :=
  .file (String.ofList (Path.inside dir.toList name.toList)) ("./" ++ stem name)

def adopt (base dir : String) (d : Document) (name : String) : Except Failure Document :=
  match classify base name with
  | none => .ok d
  | some .style => .ok (d.addDependency (.path ("./" ++ name)))
  | some .splitComponent => d.setComponent (fileModule dir name)
  | some .component =>
    match d.setComponent (fileModule dir name) with
    | .ok d => .ok (d.setRenderer (fileModule dir name))
    | .error e => .error e

def adoptAll (base dir : String) (d : Document) : List String → Except Failure Document
  | [] => .ok d
  | name :: names =>
    match adopt base dir d name with
    | .ok d => adoptAll base dir d names
    | .error e => .error e

def scan (folder : Folder) (base : String) (d : Document) : Except Failure Document :=
  match folder.list d.folder with
  | .error e => .error e
  | .ok names => adoptAll base d.folder d names.reverse

end TemplateWiring.Sibling
