import TemplateWiring.Script.Parser.Operator

namespace TemplateWiring.Script.Grammar

open TemplateWiring.Script.Parser

inductive Likelihood where
  | yes
  | no
  | maybe
  deriving DecidableEq, Repr

/-- Whether the text after a name at the start of parentheses makes it a parameter, as far as the
next tokens tell. -/
def afterFirstName : Parser Likelihood := do
  match ← lexeme with
  | .sign ":" => return .yes
  | .sign "?" =>
    advance
    match ← lexeme with
    | .sign s => return if s == ":" || s == "," || s == "=" || s == ")" then .yes else .no
    | _ => return .no
  | .sign s => return if s == "," || s == "=" || s == ")" then .maybe else .no
  | _ => return .no

/-- Whether a modifier and a name stand at the start of parentheses. That is no parameter of an
arrow function, but it is read as one, so that the mistake can be named. -/
def modifiedName (first : Lexeme) : Parser Bool := do
  match first with
  | .word w _ =>
    if modifierWords.contains w && w != "async" && (← lexeme).isBindable then
      ahead (do
        advance
        return !(← atWord "as")) false
    else return false
  | _ => return false

def parenthesizedArrow : Parser Likelihood := do
  advance
  match ← lexeme with
  | .sign ")" =>
    advance
    match ← lexeme with
    | .sign s => return if s == "=>" || s == "\x7b" then .yes else .no
    | _ => return .no
  | .sign "[" => return .maybe
  | .sign "\x7b" => return .maybe
  | .sign "..." =>
    advance
    let l ← lexeme
    if l.isLiteral then return .no
    else if l.isBindable then return .yes
    else return .maybe
  | first =>
    advance
    if ← modifiedName first then return .yes
    else if !first.isBindable && !first.isWord "this" then return .no
    else afterFirstName

def arrowAhead : Parser Likelihood :=
  ahead (do
    if ← atWord "async" then
      advance
      if (← onNewLine) || !(← atSign "(") then return .no
      else parenthesizedArrow
    else if ← atSign "(" then parenthesizedArrow
    else return .no) .no

def arrowRest (g : Grammar) (set : Setting) (isAsync : Bool) (params : List Term) :
    Parser Term := do
  if ← onNewLine then record .newlineBeforeArrow (← offset)
  expectSign "=>"
  let body : Setting := { set with inAwait := isAsync, inYield := false }
  if ← atSign "\x7b" then
    return .arrow isAsync false params (.block (← functionBody g body))
  else return .arrow isAsync false params (← g.assignment body)

def arrowHead (g : Grammar) (set : Setting) : Parser (Bool × List Term) := do
  let isAsync ← eatWord "async"
  let params ← parameters g { set with inAwait := set.inAwait || isAsync }
  return (isAsync, params.items)

/-- The head of an arrow function whose parameters might have been an expression. -/
def arrowHead? (g : Grammar) (set : Setting) : Parser (Option (Bool × List Term)) :=
  attempt do
    let head ← arrowHead g set
    if ← atSign "=>" then return head else unexpected

def parenthesizedArrow? (g : Grammar) (set : Setting) : Parser (Option Term) := do
  match ← arrowAhead with
  | .no => return none
  | .yes =>
    let (isAsync, params) ← arrowHead g set
    return some (← arrowRest g set isAsync params)
  | .maybe =>
    match ← arrowHead? g set with
    | some (isAsync, params) => return some (← arrowRest g set isAsync params)
    | none => return none

def asyncArrow? (g : Grammar) (set : Setting) : Parser (Option Term) := do
  let fits ← ahead (do
    if ← atWord "async" then
      advance
      if (← onNewLine) || !(← lexeme).isBindable then return false
      else
        advance
        return !(← onNewLine) && (← atSign "=>")
    else return false) false
  if fits then
    advanceWord
    let param ← bindingName { set with inAwait := true }
    return some (← arrowRest g set true [.ident param])
  else return none

def endsYield : Lexeme → Bool
  | .sign s => [";", "\x7d", ")", "]", ":", ","].contains s
  | .finish => true
  | _ => false

def yieldExpression (g : Grammar) (set : Setting) : Parser Term := do
  let start ← offset
  if !set.inYield then record .yieldOutside start
  advanceWord
  if ← onNewLine then return .yield false none
  else
    let delegate ← eatSign "*"
    if !delegate && endsYield (← lexeme) then return .yield false none
    else return .yield delegate (some (← g.assignment { set with inYield := true }))

def assignmentOperator? : Lexeme → Option String
  | .sign s =>
    if ["=", "+=", "-=", "*=", "/=", "%=", "**=", "<<=", ">>=", ">>>=", "&=", "|=", "^=", "&&=",
      "||=", "??="].contains s then some s else none
  | _ => none

def choice (g : Grammar) (set : Setting) (test : Term) : Parser Term := do
  if ← eatSign "?" then
    let yes ← withComments (g.assignment { set with allowIn := true })
    expectSign ":"
    return .conditional test yes (← withComments (g.assignment set))
  else return test

def markNoEffects : Term → Term
  | .function head params body => .function { head with noEffects := true } params body
  | .arrow isAsync _ params body => .arrow isAsync true params body
  | t => t

def assignmentRest (g : Grammar) (set : Setting) : Parser Term := do
  let start ← offset
  let left ← g.binary 0 set
  match left, assignmentOperator? (← lexeme) with
  | .ident name, none =>
    if ← atSign "=>" then arrowRest g set false [.ident name] else choice g set left
  | _, none => choice g set left
  | _, some op =>
    let goal ← Term.target start left
    advance
    return .assign op goal (← g.assignment set)

def unmarkedAssignment (g : Grammar) (set : Setting) : Parser Term := do
  if ← isOperatorWord "yield" set.inYield then yieldExpression g set
  else
    match ← parenthesizedArrow? g set with
    | some arrow => return arrow
    | none =>
      match ← asyncArrow? g set with
      | some arrow => return arrow
      | none => assignmentRest g set

def assignmentExpression (g : Grammar) (set : Setting) : Parser Term := do
  let marked := (← token).noEffects
  let e ← unmarkedAssignment g set
  return if marked then markNoEffects e else e

end TemplateWiring.Script.Grammar
