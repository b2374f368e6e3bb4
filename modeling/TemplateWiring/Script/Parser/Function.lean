import TemplateWiring.Script.Parser.Modifier
import TemplateWiring.Script.Parser.Pattern

namespace TemplateWiring.Script.Grammar

open TemplateWiring.Script.Parser

/-- Decorators. A chain that may stop short needs parentheses. -/
def decorators (g : Grammar) (set : Setting) : Parser (List Term) :=
  whilst (eatSign "@") do
    let start ← offset
    let e ← g.chain { set with inDecorator := true }
    match e with
    | .chain _ => record .optionalDecorator start
    | _ => pure ()
    return e

/-- A parameter. What may stand before one in other languages is passed over. -/
def parameter (g : Grammar) (set : Setting) : Parser Term := do
  if ← eatSign "..." then restPattern g set
  else
    let start ← offset
    if !(← decorators g set).isEmpty then record .misplacedDecorator start
    for m in ← modifiers false do
      record .parameterModifier m.offset
    patternWithDefault g set

def parameters (g : Grammar) (set : Setting) : Parser RestList := do
  expectSign "("
  let list ← withRest ")" (parameter g { set with allowIn := true }) .restParameterNotLast
  expectSign ")"
  return list

/-- The statements of a body. Strings that stand alone at its start are directives. -/
def bodyItems (g : Grammar) (set : Setting) (more : Parser Bool) :
    (bound : Nat) → (atStart : Bool) → Parser (List Term)
  | 0, _ => return []
  | bound + 1, atStart => do
    if ← more then
      let first ← lexeme
      let cs ← comments
      let item ← g.statement false set
      let (item, atStart) := match atStart, first, item with
        | true, .string _ raw, .expr (.string _) => (.directive raw, true)
        | _, _, _ => (item, false)
      let rest ← bodyItems g set more bound atStart
      return Term.withComments cs item :: rest
    else return []

def insideBody : Parser Bool := do
  match ← lexeme with
  | .sign "\x7d" => return false
  | .finish => return false
  | _ => return true

def functionBody (g : Grammar) (set : Setting) : Parser (List Term) := do
  expectSign "\x7b"
  let body ← bodyItems g { set with allowIn := true, inReturn := true } insideBody (← remaining) true
  closing "\x7d" body

structure Signature where
  params : RestList
  body : List Term
  paramsText : String
  bodyText : String
  start : Nat

/-- The part of a function after its name; `start` is where a missing body is reported. -/
def signature (g : Grammar) (set : Setting) (isAsync isGenerator : Bool) (start : Nat) :
    Parser Signature := do
  let inner : Setting :=
    { set with inAwait := isAsync, inYield := isGenerator, inDecorator := false }
  let paramsPlace ← here
  let paramsStart ← offset
  let params ← parameters g inner
  let paramsText ← textSince paramsPlace paramsStart
  let bodyPlace ← here
  let bodyStart ← offset
  if ← atSign "\x7b" then
    let body ← functionBody g inner
    let bodyText ← textSince bodyPlace bodyStart
    return ⟨params, body, paramsText, bodyText, paramsStart⟩
  else stop .functionBody start

def checkMissingName (declared : Bool) : Parser Unit := do
  match declared, ← lexeme with
  | true, .sign "(" => record .functionName (← offset)
  | true, .word text _ => stop (.expected "Identifier" text) (← offset)
  | _, _ => pure ()

/-- A function from its keyword on. A declaration needs a name, unless it is exported as the
default. -/
def function (g : Grammar) (set : Setting) (start : Nat) (isAsync declared named : Bool) :
    Parser Term := do
  expectWord "function"
  let isGenerator ← eatSign "*"
  let nameSet :=
    if declared then set else { set with inAwait := isAsync, inYield := isGenerator }
  let name? ←
    if (← lexeme).isBindable then pure (some (← bindingNameAt nameSet))
    else
      checkMissingName named
      pure none
  let s ← signature g set isAsync isGenerator start
  return .function ⟨isAsync, isGenerator, name?, false⟩ s.params.items s.body

def checkGetter (s : Signature) : Parser Unit := do
  if s.params.items.any (!isRest ·) then record .getterParameters s.start

def checkSetter (s : Signature) : Parser Unit := do
  match s.params.items with
  | [.rest _] => record .setterRest (s.params.restStart.getD s.start)
  | [_] => pure ()
  | _ => record .setterParameters s.start

def checkAccessor (kind : MethodKind) (s : Signature) : Parser Unit :=
  match kind with
  | .getter => checkGetter s
  | .setter => checkSetter s
  | _ => pure ()

end TemplateWiring.Script.Grammar
