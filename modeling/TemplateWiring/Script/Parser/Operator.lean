import TemplateWiring.Script.Parser.Member

namespace TemplateWiring.Script.Grammar

open TemplateWiring.Script.Parser

def markPure : Term → Term
  | .paren inner => .paren (markPure inner)
  | .placed start inner => .placed start (markPure inner)
  | .call callee args optional _ => .call callee args optional true
  | .construct callee args _ => .construct callee args true
  | .binary op left right => .binary op (markPure left) right
  | .conditional test yes no => .conditional (markPure test) yes no
  | .chain (.call callee args optional _) => .chain (.call callee args optional true)
  | t => t

def unaryOperator? : Lexeme → Option String
  | .sign s => if s == "+" || s == "-" || s == "!" || s == "~" then some s else none
  | .word w _ => if w == "typeof" || w == "void" || w == "delete" then some w else none
  | _ => none

/-- An operand with what stands before it. A power of it needs parentheses. -/
def guardedUnary (g : Grammar) (set : Setting) : Parser Term := do
  let start ← offset
  let first ← lexeme
  let e ← g.unary set
  if ((unaryOperator? first).isSome || first.isWord "await") && (← atSign "**") then
    stop .unaryBeforePower start
  else return e

def updateExpression (g : Grammar) (set : Setting) : Parser Term := do
  let start ← offset
  match ← lexeme with
  | .sign s =>
    if s == "++" || s == "--" then
      advance
      let argStart ← offset
      let arg ← guardedUnary g set
      return .update s true (← Term.simpleTarget argStart arg)
    else postfixed start
  | _ => postfixed start
where
  postfixed (start : Nat) : Parser Term := do
    let e ← chainExpression g set
    match ← lexeme with
    | .sign s =>
      if (s == "++" || s == "--") && !(← onNewLine) then
        let t ← Term.simpleTarget start e
        advance
        return .update s false t
      else return e
    | _ => return e

def operatorWordFollows : Parser Bool :=
  ahead (do
    advance
    return !(← onNewLine) && (← lexeme).followsOperatorWord) false

/-- Whether `word` is an operator here: always where it is enabled, and before a literal or name on
its line elsewhere, so that the mistake can be named. -/
def isOperatorWord (word : String) (enabled : Bool) : Parser Bool := do
  if ← atWord word then
    if enabled then return true else operatorWordFollows
  else return false

def awaitExpression (g : Grammar) (set : Setting) : Parser Term := do
  if !set.inAwait then record .awaitOutside (← offset)
  advanceWord
  return .await (← g.unary { set with inAwait := true })

def simpleUnary (g : Grammar) (set : Setting) : Parser Term := do
  match unaryOperator? (← lexeme) with
  | some op =>
    advanceWord
    return .unary op (← g.unary set)
  | none =>
    if ← atSign "<" then stop .markup (← offset)
    else if ← isOperatorWord "await" set.inAwait then awaitExpression g set
    else updateExpression g set

def unaryExpression (g : Grammar) (set : Setting) : Parser Term := do
  let pure := (← token).pure
  let e ← simpleUnary g set
  return if pure then markPure e else e

def comparison : Nat := 8

def power : Nat := 12

/-- How tight a binary operator binds; 0 for what is none. -/
def levelOf : Lexeme → Nat
  | .sign s =>
    match s with
    | "??" => 1
    | "||" => 2
    | "&&" => 3
    | "|" => 4
    | "^" => 5
    | "&" => 6
    | "==" | "!=" | "===" | "!==" => 7
    | "<" | ">" | "<=" | ">=" => comparison
    | "<<" | ">>" | ">>>" => 9
    | "+" | "-" => 10
    | "*" | "/" | "%" => 11
    | "**" => power
    | _ => 0
  | .word w _ =>
    if w == "in" || w == "instanceof" || w == "as" || w == "satisfies" then comparison else 0
  | _ => 0

def operatorText : Lexeme → String
  | .sign s => s
  | .word w _ => w
  | _ => ""

/-- Whether an operator stays where it is: it binds less tightly, or the place has no use for it. -/
def stays (op : Lexeme) (onNewLine : Bool) (level : Nat) (allowIn : Bool) : Bool :=
  let tight := levelOf op
  tight == 0 || (if tight == power then tight < level else tight ≤ level) ||
    (op.isWord "in" && !allowIn) || ((op.isWord "as" || op.isWord "satisfies") && onNewLine)

def isAndOr : Term → Bool
  | .binary op _ _ => op == "&&" || op == "||"
  | _ => false

def isCoalesce : Term → Bool
  | .binary op _ _ => op == "??"
  | _ => false

structure Operand where
  term : Term
  parenthesized : Bool

/-- Whether `??` is mixed with `&&` or `||`. What starts with a parenthesis is not looked into. -/
def mixesCoalesce (op : String) (left right : Operand) : Bool :=
  let clashes (o : Operand) : Bool :=
    !o.parenthesized &&
      (if op == "??" then isAndOr o.term
       else (op == "&&" || op == "||") && isCoalesce o.term)
  clashes left || clashes right

def startsType : Parser Bool := do
  match ← lexeme with
  | .word .. => return true
  | .string .. => return true
  | .number .. => return true
  | .bigint .. => return true
  | .template .. => return true
  | .sign s => return ["\x7b", "[", "(", "-", "<", "|", "&"].contains s
  | _ => return false

/-- A type after its keyword, which no script has. -/
def typeOperand {α : Type} (word : String) (start : Nat) : Parser α := do
  advanceWord
  if ← startsType then
    stop (if word == "as" then .typeAssertion else .typeCheck) start
  else unexpected

def isPrivateIn : Term → Bool
  | .privateIn .. => true
  | _ => false

def binaryTail (g : Grammar) (set : Setting) (level start : Nat) :
    (bound : Nat) → (left : Operand) → Parser Term
  | 0, left => return left.term
  | bound + 1, left => do
    if ← atSign ">" then rescan rescanAngle
    let op ← lexeme
    if stays op (← onNewLine) level set.allowIn then return left.term
    else if op.isWord "as" || op.isWord "satisfies" then typeOperand (operatorText op) start
    else
      advanceWord
      let rightStart ← offset
      let parenthesized ← atSign "("
      let right ← g.binary (levelOf op) set
      if comparison ≤ levelOf op && isPrivateIn right then stop .misplacedPrivate rightStart
      else
        let text := operatorText op
        if mixesCoalesce text left ⟨right, parenthesized⟩ then record .mixedCoalesce start
        binaryTail g set level start bound { left with term := .binary text left.term right }

def privateIn (g : Grammar) (set : Setting) (name : String) : Parser Term := do
  advance
  expectWord "in"
  let start ← offset
  let right ← g.binary comparison set
  if isPrivateIn right then stop .misplacedPrivate start
  else return .privateIn name right

def binaryExpression (g : Grammar) (level : Nat) (set : Setting) : Parser Term := do
  let start ← offset
  let parenthesized ← atSign "("
  let first ←
    match ← lexeme with
    | .hash name => if set.allowIn then privateIn g set name else unexpected
    | _ => guardedUnary g set
  binaryTail g set level start (← remaining) ⟨first, parenthesized⟩

end TemplateWiring.Script.Grammar
