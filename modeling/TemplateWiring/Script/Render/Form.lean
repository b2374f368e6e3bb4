import TemplateWiring.Number.Spelling
import TemplateWiring.Script.Render.Layout
import TemplateWiring.Script.Render.Place

namespace TemplateWiring.Script

def numberText : Option Binary64 → String
  | none => "Infinity"
  | some x => String.ofList x.brief

/-- A dot after a plain integer would be read as part of it. -/
def dotNeedsSpace (t : Term) : Bool :=
  match t.bare with
  | .number (some x) => x.brief.all Char.isDigit
  | _ => false

def isAndOrOr (t : Term) : Bool :=
  match t.bare with
  | .binary op _ _ => op == "&&" || op == "||"
  | _ => false

def keepsParens (t : Term) : Bool :=
  match t.unplaced with
  | .function .. => true
  | .arrow .. => true
  | _ => false

def isUnary (t : Term) : Bool :=
  match t.bare with
  | .unary .. => true
  | _ => false

def isAssignedObject : Term → Bool
  | .objectPattern assigned _ => assigned
  | _ => false

def isName (t : Term) (name : String) : Bool :=
  match t.bare with
  | .ident n => n == name
  | _ => false

def operandLevels (op : String) (left right : Term) : Nat × Nat :=
  let level := Level.binary op
  if op == "**" then (if isUnary left then Level.call else level, level - 1)
  else if op == "??" then
    (if isAndOrOr left then Level.unary else level - 1,
      if isAndOrOr right then Level.unary else level - 1)
  else if op == "&&" || op == "||" then (level - 1, level - 1)
  else (level - 1, level)

/-- A sign before its operand; two that would run together are kept apart. -/
def prefixed (op arg : String) : String :=
  let runsTogether := match op.toList.getLast?, arg.toList.head? with
    | some '+', some '+' => true
    | some '-', some '-' => true
    | _, _ => false
  if runsTogether then op ++ " " ++ arg else op ++ arg

/-- A sign is kept apart from an operand that ends in the same sign twice, too. -/
def endsInTwice (op : String) (t : Term) : Bool :=
  match t.bare with
  | .update sign false _ => sign == op ++ op
  | _ => false

def isWordOperator (op : String) : Bool := op == "typeof" || op == "void" || op == "delete"

def isInfinite (t : Term) : Bool :=
  match t with
  | .number none => true
  | _ => false

/-- An operator with its operand. What is infinite is no name that may be deleted. -/
def unaryText (op : String) (arg : Term) (text : String) : String :=
  if op == "delete" && isInfinite arg then "delete (0, " ++ text ++ ")"
  else if isWordOperator op then op ++ " " ++ text
  else if endsInTwice op arg then op ++ " " ++ text
  else prefixed op text

def sameName (key value : Term) : Bool :=
  match key, value.bare with
  | .ident k, .ident name => k == name && k != "__proto__"
  | _, _ => false

def bindsKey (key goal : Term) : Bool :=
  match key, goal.unplaced with
  | .ident k, .withDefault inner _ => isName inner k
  | .ident k, .ident name => k == name
  | _, _ => false

/-- A decorator that is no name, member of a name, or call of such needs parentheses. -/
def needsParens : Term → Bool
  | .ident _ => false
  | .dot _ _ false => false
  | .call callee _ _ _ => needsParens callee
  | _ => true

def isHole : Term → Bool
  | .hole => true
  | _ => false

def isRestElement : Term → Bool
  | .rest _ => true
  | _ => false

/-- A hole at the end needs a comma of its own. -/
def closeHole (items : List Term) (parts : List String) : List String :=
  if items.getLast?.any isHole then
    match parts.getLast? with
    | some s => parts.dropLast ++ [s ++ ","]
    | none => parts
  else parts

/-- An array that binds names: what takes the rest is kept apart from the bracket. -/
def boundArray (items : List Term) (parts : List String) : String :=
  if items.length == 1 && items.any isRestElement then "[ " ++ joined parts ++ "]"
  else "[" ++ joined (closeHole items parts) ++ "]"

/-- An `if` that an `else` after it would be taken for. -/
def endsInOpenIf : Term → Bool
  | .cond _ _ none => true
  | .cond _ _ (some no) => endsInOpenIf no
  | .loop _ _ _ body => endsInOpenIf body
  | .each _ _ _ _ body => endsInOpenIf body
  | .while _ body => endsInOpenIf body
  | .with _ body => endsInOpenIf body
  | .labeled _ body => endsInOpenIf body
  | .noted _ inner => endsInOpenIf inner
  | _ => false

/-- A string at the start of a body that is no directive has parentheses. -/
def leadingString? : Term → Option (List StringUnit)
  | .noted _ (.expr value) | .expr value =>
    match value.bare with
    | .string s => some s
    | _ => none
  | _ => none

def methodWord : MethodKind → String
  | .getter => "get "
  | .setter => "set "
  | _ => ""

def noEffectsMark : String := "/* @__NO_SIDE_EFFECTS__ */"

def pureMark : String := "/* @__PURE__ */ "

def functionText (head : FunctionHead) (params : List String) (body : String) : String :=
  word head.isAsync "async " ++ "function" ++ word head.isGenerator "* " ++
    (match head.name with
      | none => ""
      | some n => if head.isGenerator then n.text else " " ++ n.text) ++
    "(" ++ joined params ++ ") " ++ body

def methodText (kind : MethodKind) (isAsync isGenerator : Bool) (key : String)
    (params : List String) (body : String) : String :=
  methodWord kind ++ word isAsync "async " ++ word isGenerator "*" ++ key ++ "(" ++ joined params ++
    ") " ++ body

def decorated (decorators : List String) : String :=
  String.join (decorators.map fun d => d ++ " ")

def accessText (words : MemberWords) : String :=
  match words.access with
  | some w => w ++ " "
  | none => ""

def methodLead (words : MemberWords) : String :=
  word words.isAbstract "abstract " ++ accessText words ++ word words.isStatic "static "

def fieldLead (words : MemberWords) (isAccessor : Bool) : String :=
  if isAccessor then methodLead words ++ "accessor "
  else
    word words.isDeclared "declare " ++ methodLead words ++ word words.isReadonly "readonly "

def className : Option NameAt → String
  | none => ""
  | some n => " " ++ n.text

def interfacesText : List String → String
  | [] => ""
  | names => " implements " ++ joined names

def labelText : Option String → String
  | none => ""
  | some label => " " ++ label

def templateText : List String → List String → String
  | [], _ => ""
  | [piece], _ => guarded piece
  | piece :: pieces, value :: values =>
    guarded piece ++ "$\x7b" ++ value ++ "\x7d" ++ templateText pieces values
  | piece :: pieces, [] => guarded piece ++ templateText pieces []

def moduleNameText : ModuleName → String
  | .word text => text
  | .string value => quoted value

def moduleNameValue : ModuleName → List StringUnit
  | .word text => text.toList.map StringUnit.char
  | .string value => value

def renamed (first second : ModuleName) : String :=
  moduleNameText first ++
    (if moduleNameValue first == moduleNameValue second then "" else " as " ++ moduleNameText second)

def namesText (names : List String) : String :=
  if names.isEmpty then "\x7b\x7d" else "\x7b " ++ joined names ++ " \x7d"

def sourceText (s : ModuleSource) : String :=
  let one (a : ModuleName × List StringUnit) : String := moduleNameText a.1 ++ ": " ++ quoted a.2
  quoted s.place ++
    (match s.keyword with
      | none => ""
      | some w => " " ++ w ++ " " ++ namesText (s.attributes.map one))

def importPartText? : ImportName → Option String
  | .part outer own => some (renamed outer (.word own))
  | _ => none

def importWholeText? : ImportName → Option String
  | .main own => some own
  | .whole own => some ("* as " ++ own)
  | _ => none

def importNamesText (names : List ImportName) : String :=
  let parts := names.filterMap importPartText?
  let wholes := names.filterMap importWholeText?
  if wholes.isEmpty then namesText parts
  else joined (wholes ++ (if parts.isEmpty then [] else [namesText parts]))

def importText (phase : Option String) (names : Option (List ImportName)) (source : ModuleSource) :
    String :=
  "import " ++ (match phase with
    | some w => w ++ " "
    | none => "") ++
  (match names with
    | some ns => importNamesText ns ++ " from "
    | none => "") ++ sourceText source ++ ";\n"

def exportNamesText (names : List ExportName) (source : Option ModuleSource) : String :=
  "export " ++ namesText (names.map fun n => renamed n.own n.outer) ++
    (match source with
      | some s => " from " ++ sourceText s
      | none => "") ++ ";\n"

def exportAllText (name : Option (ModuleName × Nat)) (source : ModuleSource) : String :=
  "export *" ++
    (match name with
      | some (n, _) => " as " ++ moduleNameText n
      | none => "") ++ " from " ++ sourceText source ++ ";\n"

end TemplateWiring.Script
