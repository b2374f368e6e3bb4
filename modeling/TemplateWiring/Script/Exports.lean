import TemplateWiring.Script.Ast
import TemplateWiring.Script.Complaint

namespace TemplateWiring.Script

namespace ModuleName

def value : ModuleName → String
  | word text => text
  | string units => String.ofList ((plainText? units).getD [])

end ModuleName

namespace Term

mutual

def boundNames : Term → List NameAt
  | placed start (ident name) => [⟨name, start⟩]
  | short name start _ => [⟨name, start⟩]
  | withDefault inner _ => boundNames inner
  | rest inner => boundNames inner
  | pair _ value => boundNames value
  | arrayPattern _ items => boundNamesOf items
  | objectPattern _ fields => boundNamesOf fields
  | declarator goal _ => boundNames goal
  | var _ declarators => boundNamesOf declarators
  | function head _ _ => head.name.toList
  | classExpr _ name _ _ _ => name.toList
  | _ => []

def boundNamesOf : List Term → List NameAt
  | [] => []
  | t :: ts => boundNames t ++ boundNamesOf ts

end

def exportedNames : Term → List NameAt
  | noted _ inner => exportedNames inner
  | exportNames names _ => names.map fun n => ⟨n.outer.value, n.start⟩
  | exportAll (some (name, start)) _ => [⟨name.value, start⟩]
  | exported declaration => boundNames declaration
  | _ => []

def importedParts : Term → List String
  | noted _ inner => importedParts inner
  | importFrom _ (some names) _ => names.filterMap fun
    | .main own => some own
    | .part _ own => some own
    | .whole _ => none
  | _ => []

/-- Where a statement exports something as the default, and whether it comes from another script,
given the names that do. -/
def defaults (imported : List String) : Term → List (Nat × Bool)
  | noted _ inner => defaults imported inner
  | exportDefault start _ => [(start, false)]
  | exportNames names source =>
    (names.filter fun n => n.outer.value == "default").map fun n =>
      (n.start, source.isSome || imported.contains n.own.value)
  | exportAll (some (name, start)) _ => if name.value == "default" then [(start, true)] else []
  | _ => []

end Term

def repeatedName? : (seen : List NameAt) → List NameAt → Option NameAt
  | _, [] => none
  | seen, n :: ns =>
    match seen.find? fun m => m.text == n.text with
    | some m => some m
    | none => repeatedName? (n :: seen) ns

/-- The second default of a script. Those from other scripts come last. -/
def secondDefault? (items : List Term) : Option Nat :=
  let all := items.flatMap (Term.defaults (items.flatMap Term.importedParts))
  ((all.filter (!·.2) ++ all.filter (·.2))[1]?).map (·.1)

def repeatedExport? (items : List Term) : Option Fault :=
  match repeatedName? [] (items.flatMap Term.exportedNames) with
  | some n => some ⟨.repeatedExport n.text, n.start⟩
  | none => (secondDefault? items).map fun start => ⟨.repeatedExport "default", start⟩

end TemplateWiring.Script
