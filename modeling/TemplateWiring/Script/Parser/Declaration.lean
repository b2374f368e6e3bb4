import TemplateWiring.Script.Parser.Expression

namespace TemplateWiring.Script.Grammar

open TemplateWiring.Script.Parser

def isBound (t : Term) : Bool :=
  match t.unplaced with
  | .ident _ => true
  | _ => false

structure Declared where
  term : Term
  start : Nat

def declarator (g : Grammar) (set : Setting) : Parser Declared := do
  let start ← offset
  let goal ← g.pattern set
  if ← eatSign "=" then return ⟨.declarator goal (some (← g.assignment set)), start⟩
  else return ⟨.declarator goal none, start⟩

/-- Only plain names that are not constant may go without a value. -/
def checkValue (kind : VarKind) (d : Declared) : Parser Unit := do
  match d.term with
  | .declarator goal none =>
    if !isBound goal then record .patternInitializer d.start
    else if kind == .const then record .constInitializer d.start
  | _ => pure ()

/-- What is disposed of has a name, and a value outside of loops. -/
def checkResource (inLoop : Bool) (d : Declared) : Parser Unit := do
  match d.term with
  | .declarator goal value? =>
    if !isBound goal then record .usingPattern d.start
    if value?.isNone && !inLoop then record .usingInitializer d.start
  | _ => pure ()

def checkDeclared (kind : VarKind) (inLoop : Bool) (d : Declared) : Parser Unit := do
  if !inLoop then checkValue kind d
  if kind.disposes then checkResource inLoop d

def declarators (g : Grammar) (set : Setting) (kind : VarKind) (inLoop : Bool) :
    Parser (List Declared) := do
  let one : Parser Declared := do
    let d ← declarator g set
    checkDeclared kind inLoop d
    return d
  let first ← one
  let more ← whilst (eatSign ",") one
  return first :: more

def declarationWords (kind : VarKind) : Parser Unit := do
  if kind == .awaitResource then advanceWord
  advanceWord

def declaration (g : Grammar) (set : Setting) (kind : VarKind) : Parser Term := do
  declarationWords kind
  let ds ← declarators g { set with allowIn := true } kind false
  return .var kind (ds.map (·.term))

/-- Whether a name or a pattern of an object stands on this line, as after `using`. -/
def resourceFollows (inLoop : Bool) : Parser Bool := do
  if ← onNewLine then return false
  else if inLoop && (← atWord "of") then return false
  else return (← lexeme).isBindable || (← atSign "\x7b")

def resourceKind? (inLoop : Bool) : Parser (Option VarKind) := do
  if ← atWord "using" then
    if ← ahead (do advance; resourceFollows inLoop) false then return some .resource
    else return none
  else if ← atWord "await" then
    let fits ← ahead (do
      advance
      if ← atWord "using" then
        advance
        resourceFollows false
      else return false) false
    return if fits then some .awaitResource else none
  else return none

/-- Operators after which a `let` is a name: those of assignments, and those of two operands but
for logical ones. -/
def followsLetName : Lexeme → Bool
  | .sign s =>
    s == "." || s == "(" || (assignmentOperator? (.sign s)).isSome || 4 ≤ levelOf (.sign s)
  | .word w _ => w == "in" || w == "instanceof"
  | _ => false

def letDeclares (alone : Bool) : Parser Bool :=
  ahead (do
    advance
    let next ← lexeme
    if followsLetName next || next.isSign ";" then return false
    else return !alone || next.isSign "[") true

def letDeclaresLoop : Parser Bool :=
  ahead (do
    advance
    match ← lexeme with
    | .word w _ => return w != "in"
    | .sign s => return s == "[" || s == "\x7b"
    | _ => return false) false

def functionDeclaration (g : Grammar) (set : Setting) (isAsync named : Bool) : Parser Term := do
  let start ← offset
  if isAsync then advanceWord
  function g set start isAsync true named

def decoratedClass (g : Grammar) (set : Setting) : Parser Term := do
  let decs ← decorators g set
  if ← atWord "class" then classRest g set decs else unexpected

/-- A declaration as it may stand after a word of its own, without the end of its statement, and
whether it needs one. -/
def wordedDeclaration (g : Grammar) (set : Setting) : Parser (Term × Bool) := do
  match ← lexeme with
  | .word "var" _ => return (← declaration g set .var, true)
  | .word "let" _ => return (← declaration g set .let, true)
  | .word "const" _ => return (← declaration g set .const, true)
  | .word "function" _ => return (← functionDeclaration g set false true, false)
  | .word "class" _ => return (← classRest g set [], false)
  | .word "async" _ =>
    if ← functionFollows then return (← functionDeclaration g set true true, false)
    else unexpected
  | .sign "@" => return (← decoratedClass g set, false)
  | _ => unexpected

end TemplateWiring.Script.Grammar
