import TemplateWiring.Script.Parser.Class
import TemplateWiring.Script.Parser.Target

namespace TemplateWiring.Script.Grammar

open TemplateWiring.Script.Parser

def inner (set : Setting) : Setting := { set with allowIn := true, inDecorator := false }

def placed (p : Parser Term) : Parser Term := do
  let start ← offset
  return .placed start (← p)

def spreadOr (g : Grammar) (set : Setting) : Parser Term := do
  if ← eatSign "..." then return .spread (← placed (g.assignment (inner set)))
  else g.assignment (inner set)

def arguments (g : Grammar) (set : Setting) : Parser (List Term) := do
  expectSign "("
  let (args, _) ← separated ")" (withComments (spreadOr g set))
  closing ")" args

def arrayItem (g : Grammar) (set : Setting) : Parser Term := do
  if ← atSign "," then return .hole
  else placed (spreadOr g set)

def array (g : Grammar) (set : Setting) : Parser Term := do
  advance
  let (items, trailing) ← separated "]" (arrayItem g set)
  expectSign "]"
  return .array items trailing

def objectMethod (g : Grammar) (set : Setting) (kind : MethodKind) (isAsync isGenerator : Bool)
    (key : Term) : Parser Term := do
  let s ← signature g set isAsync isGenerator (← offset)
  checkAccessor kind s
  return .objectMethod kind isAsync isGenerator key s.params.items s.body s.start

def objectAccessor (g : Grammar) (set : Setting) (kind : MethodKind) (ms : List Modifier) :
    Parser Term := do
  allowOnly ms []
  let (key, _) ← propertyName g set
  objectMethod g set kind false false key

def objectMember (g : Grammar) (set : Setting) : Parser Term := do
  let set := inner set
  let start ← offset
  if ← atSign "..." then placed (spreadOr g set)
  else
    let ms ← modifiers false
    if ← accessorWord "get" then objectAccessor g set .getter ms
    else if ← accessorWord "set" then objectAccessor g set .setter ms
    else
      let isGenerator ← eatSign "*"
      let bindable := (← lexeme).isBindable
      let (key, _) ← propertyName g set
      if isGenerator || (← atSign "(") then
        allowOnly ms ["async"]
        objectMethod g set .plain (hasModifier ms "async") isGenerator key
      else
        allowOnly ms []
        match key, bindable && !(← atSign ":") with
        | .ident name, true =>
          if ← eatSign "=" then
            let value ← g.assignment set
            modify fun s => { s with pending := s.pending.insert start }
            return .short name start (some value)
          else return .short name start none
        | _, _ =>
          expectSign ":"
          return .pair key (← placed (g.assignment set))

def object (g : Grammar) (set : Setting) : Parser Term := do
  advance
  let (members, trailing) ← separated "\x7d" (objectMember g set)
  expectSign "\x7d"
  return .object members trailing

/-- Without a tag, every escape has to stand for something. -/
def checkPiece (tagged sound : Bool) : Parser Unit := do
  if !tagged && !sound then record .templateEscape ((← offset) + 1)

def templatePieces (g : Grammar) (set : Setting) (tagged : Bool) :
    (bound : Nat) → Parser (List String × List Term)
  | 0 => unexpected
  | bound + 1 => do
    match ← lexeme with
    | .template raw true sound =>
      checkPiece tagged sound
      advance
      return ([raw], [])
    | .template raw false sound =>
      checkPiece tagged sound
      advance
      let value ← g.expression (inner set)
      if ← atSign "\x7d" then
        rescan rescanTemplate
        let (raws, values) ← templatePieces g set tagged bound
        return (raw :: raws, value :: values)
      else unexpected
    | _ => unexpected

def template (g : Grammar) (set : Setting) (tagged : Bool) : Parser (List String × List Term) := do
  templatePieces g set tagged (← remaining)

def parenthesized (g : Grammar) (set : Setting) : Parser Term := do
  let start ← offset
  advance
  let first ← offset
  let (items, trailing) ← separated ")" (g.assignment (inner set))
  match trailing, items with
  | some comma, _ => stop .trailingParenthesesComma comma
  | none, [] =>
    expectSign ")"
    stop .emptyParentheses start
  | none, [e] =>
    expectSign ")"
    return .paren (.placed first e)
  | none, es =>
    expectSign ")"
    return .paren (.placed first (.sequence es))

def functionFollows : Parser Bool :=
  ahead (do
    advance
    return !(← onNewLine) && (← atWord "function")) false

def name (set : Setting) : Parser Term := do
  match ← lexeme with
  | .word text _ =>
    let reserved := !(← lexeme).isBindable ||
      (text == "yield" && set.inYield) || (text == "await" && set.inAwait)
    if reserved then unexpected
    else
      advance
      return .ident text
  | _ => unexpected

def wordPrimary (g : Grammar) (set : Setting) (text : String) : Parser Term := do
  let start ← offset
  let literal (t : Term) : Parser Term := do
    advanceWord
    return t
  match text with
  | "this" => literal .this
  | "null" => literal .null
  | "true" => literal (.bool true)
  | "false" => literal (.bool false)
  | "function" => function g set start false false false
  | "class" => classRest g set []
  | "async" =>
    if ← functionFollows then
      advanceWord
      function g set start true false false
    else name set
  | _ => name set

/-- A regular expression. Nothing may be wrong with any token up to its end. -/
def regex : Parser Term := do
  rescan rescanRegex
  match ← lexeme, (← get).tokenFaults with
  | .regex source, [] =>
    advance
    return .regex source
  | _, _ => unexpected

def primary (g : Grammar) (set : Setting) : Parser Term := do
  match ← lexeme with
  | .word text _ => wordPrimary g set text
  | .string value _ =>
    advance
    return .string value
  | .number value _ =>
    advance
    return .number value
  | .bigint digits _ =>
    advance
    return .bigint digits
  | .template .. =>
    let (parts, values) ← template g set false
    return .template parts values
  | .sign "[" => array g set
  | .sign "\x7b" => object g set
  | .sign "(" => parenthesized g set
  | .sign "@" =>
    let decs ← decorators g set
    if ← atWord "class" then classRest g set decs else unexpected
  | .sign "/" => regex
  | .sign "/=" => regex
  | _ => unexpected

end TemplateWiring.Script.Grammar
