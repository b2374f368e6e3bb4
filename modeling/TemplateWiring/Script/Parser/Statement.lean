import TemplateWiring.Script.Parser.Module

namespace TemplateWiring.Script.Grammar

open TemplateWiring.Script.Parser

/-- Comments before a block, or before nothing at all, are not kept where one statement only is
wanted. -/
def quiet : Term → Term
  | .noted _ (.block items) => .block items
  | .noted _ .empty => .empty
  | t => t

def body (g : Grammar) (set : Setting) : Parser Term := do return quiet (← g.item true set)

def condition (g : Grammar) (set : Setting) : Parser Term := do
  expectSign "("
  let e ← g.expression (inner set)
  expectSign ")"
  return e

def blockItems (g : Grammar) (set : Setting) : Parser (List Term) := do
  expectSign "\x7b"
  let items ← whilst (do return !(← atSign "\x7d")) (g.item false set)
  expectSign "\x7d"
  return items

/-- A declaration. One that is visible in its block only does not stand alone. -/
def varStatement (g : Grammar) (alone : Bool) (set : Setting) (kind : VarKind) : Parser Term := do
  let start ← offset
  let t ← declaration g set kind
  if alone && kind != .var then record .lexicalAlone start
  endStatement
  return t

/-- A branch, of which an `if` after `else` does not keep its comments. -/
def elseBranch (g : Grammar) (set : Setting) : Parser Term := do
  let t ← body g set
  match t with
  | .noted _ (.cond test yes no) => return .cond test yes no
  | _ => return t

def ifStatement (g : Grammar) (set : Setting) : Parser Term := do
  advanceWord
  let test ← condition g set
  let yes ← body g set
  if ← eatWord "else" then return .cond test yes (some (← elseBranch g set))
  else return .cond test yes none

/-- A loop over values one by one is the only one that waits for them; `start` is where the loop
starts. -/
def checkAwait (isAwait : Bool) (start : Nat) : Parser Unit := do
  if isAwait then record .awaitLoop start

def loopRest (g : Grammar) (set : Setting) (isAwait : Bool) (start : Nat) (first : Option Term) :
    Parser Term := do
  expectSign ";"
  let test? ←
    if (← atSign ";") || (← atSign ")") then pure none
    else pure (some (← g.expression (inner set)))
  expectSign ";"
  let update? ←
    if ← atSign ")" then pure none else pure (some (← g.expression (inner set)))
  expectSign ")"
  checkAwait isAwait start
  return .loop first test? update? (← body g set)

def eachRest (g : Grammar) (set : Setting) (isAwait : Bool) (start : Nat) (goal : Term) :
    Parser Term := do
  let isOf ← atWord "of"
  advanceWord
  let subject ← if isOf then g.assignment (inner set) else g.expression (inner set)
  expectSign ")"
  if !isOf then checkAwait isAwait start
  return .each isAwait isOf goal subject (← body g set)

def atEach : Parser Bool := do return (← atWord "of") || (← atWord "in")

def loopKind? : Parser (Option VarKind) := do
  match ← lexeme with
  | .word "var" _ => return some .var
  | .word "const" _ => return some .const
  | .word "let" false => return if ← letDeclaresLoop then some .let else none
  | _ => resourceKind? true

def expressionLoop (g : Grammar) (set : Setting) (isAwait : Bool) (start : Nat) : Parser Term := do
  let first ← offset
  let asyncOf ←
    if (← lexeme).isPlainWord "async" then ahead (do advance; atWord "of") false else pure false
  let e ← g.expression { set with allowIn := false }
  if ← atEach then
    if asyncOf && !isAwait && (← atWord "of") then record .asyncLoopTarget first
    eachRest g set isAwait start (← Term.target first e)
  else loopRest g set isAwait start (some e)

def forStatement (g : Grammar) (set : Setting) : Parser Term := do
  let start ← offset
  advanceWord
  let isAwait ← do
    if ← atWord "await" then
      if !set.inAwait then record .awaitOutside (← offset)
      advanceWord
      pure true
    else pure false
  expectSign "("
  if (← atSign ";") || (← atSign ")") then loopRest g set isAwait start none
  else
    match ← loopKind? with
    | some kind =>
      declarationWords kind
      let ds ← declarators g { set with allowIn := false } kind true
      let head := Term.var kind (ds.map (·.term))
      if ← atEach then eachRest g set isAwait start head
      else
        if !kind.disposes then
          for d in ds do checkValue kind d
        loopRest g set isAwait start (some head)
    | none => expressionLoop g set isAwait start

def whileStatement (g : Grammar) (set : Setting) : Parser Term := do
  advanceWord
  let test ← condition g set
  return .while test (← body g set)

def withStatement (g : Grammar) (set : Setting) : Parser Term := do
  advanceWord
  let subject ← condition g set
  return .with subject (← body g set)

def doStatement (g : Grammar) (set : Setting) : Parser Term := do
  advanceWord
  let inside ← match ← g.item true set with
    | .noted _ (.block items) => pure (Term.block items)
    | t => pure t
  expectWord "while"
  let test ← condition g set
  discard (eatSign ";")
  return .doWhile inside test

/-- A statement of a case. What is to be disposed of needs a block around it. -/
def caseItem (g : Grammar) (set : Setting) : Parser Term := do
  let start ← offset
  let t ← g.item false set
  match t.splitComments.2 with
  | .var kind _ => if kind.disposes then record .usingCase start
  | _ => pure ()
  return t

def switchCase (g : Grammar) (set : Setting) : Parser Term := do
  let test? ←
    if ← eatWord "default" then pure none
    else if ← eatWord "case" then pure (some (← g.expression (inner set)))
    else stop .switchClause (← offset)
  expectSign ":"
  let items ← whilst (do
    return !((← atWord "case") || (← atWord "default") || (← atSign "\x7d") ||
      (← lexeme) == .finish)) (caseItem g set)
  match items with
  | [one] => return .case test? [quiet one]
  | _ => return .case test? items

def switchStatement (g : Grammar) (set : Setting) : Parser Term := do
  advanceWord
  let subject ← condition g set
  expectSign "\x7b"
  let cases ← whilst (do return !(← atSign "\x7d")) (switchCase g set)
  expectSign "\x7d"
  return .switch subject cases

def throwStatement (g : Grammar) (set : Setting) : Parser Term := do
  let start ← offset
  advanceWord
  if ← onNewLine then record .newlineAfterThrow start
  let value ← g.expression (inner set)
  endStatement
  return .throw value

def catchClause (g : Grammar) (set : Setting) : Parser Term := do
  advanceWord
  let param? ← do
    if ← eatSign "(" then
      let p ← g.pattern set
      expectSign ")"
      pure (some p)
    else pure none
  return .handler param? (← blockItems g set)

def tryStatement (g : Grammar) (set : Setting) : Parser Term := do
  advanceWord
  let items ← blockItems g set
  let stop ← previousStop
  let handler? ← if ← atWord "catch" then pure (some (← catchClause g set)) else pure none
  let finalizer? ←
    if ← eatWord "finally" then pure (some (Term.block (← blockItems g set))) else pure none
  if handler?.isNone && finalizer?.isNone then record .missingCatch stop
  return .try items handler? finalizer?

def returnStatement (g : Grammar) (set : Setting) : Parser Term := do
  let start ← offset
  if !set.inReturn then record .returnOutside start
  advanceWord
  let value? ← if ← canEnd then pure none else pure (some (← g.expression (inner set)))
  endStatement
  return .return value?

def labelName (set : Setting) : Parser String := do
  match ← name set with
  | .ident text => return text
  | _ => unexpected

def jumpLabel (set : Setting) : Parser (Option String) := do
  advanceWord
  let label? ← if ← canEnd then pure none else pure (some (← labelName set))
  endStatement
  return label?

def expressionStatement (g : Grammar) (set : Setting) : Parser Term := do
  let e ← g.expression (inner set)
  match e with
  | .ident name =>
    if ← eatSign ":" then return .labeled name (← body g set)
    else
      endStatement
      return .expr e
  | _ =>
    endStatement
    return .expr e

/-- A `let` that starts no declaration. Where one statement only is wanted it is no more than a
name, unless an operator follows. -/
def letExpression (g : Grammar) (set : Setting) : Parser Term := do
  if followsLetName (← ahead (do advance; lexeme) .finish) then expressionStatement g set
  else
    advance
    endStatement
    return .expr (.ident "let")

def functionStatement (g : Grammar) (alone : Bool) (set : Setting) (isAsync : Bool) :
    Parser Term := do
  let start ← offset
  let f ← functionDeclaration g set isAsync true
  match f with
  | .function head _ _ =>
    if alone && head.isAsync then record .asyncAlone start
    if alone && head.isGenerator then record .generatorAlone start
  | _ => pure ()
  return f

def classStatement (g : Grammar) (alone : Bool) (set : Setting) : Parser Term := do
  let start ← offset
  let c ← decoratedClass g set
  if alone then record .classAlone start
  return c

/-- A statement that starts with a word of no meaning of its own, or with one that has a meaning
only in some places. -/
def otherStatement (g : Grammar) (alone : Bool) (set : Setting) : Parser Term := do
  match ← resourceKind? false with
  | some kind => varStatement g alone set kind
  | none => expressionStatement g set

def wordStatement (g : Grammar) (alone : Bool) (set : Setting) (word : String) (escaped : Bool) :
    Parser Term := do
  match word with
  | "if" => ifStatement g set
  | "for" => forStatement g set
  | "while" => whileStatement g set
  | "with" => withStatement g set
  | "do" => doStatement g set
  | "switch" => switchStatement g set
  | "throw" => throwStatement g set
  | "try" => tryStatement g set
  | "return" => returnStatement g set
  | "break" => return .break (← jumpLabel set)
  | "continue" => return .continue (← jumpLabel set)
  | "debugger" =>
    advanceWord
    endStatement
    return .debugger
  | "var" => varStatement g alone set .var
  | "const" => varStatement g alone set .const
  | "let" =>
    if escaped then expressionStatement g set
    else if ← letDeclares alone then varStatement g alone set .let
    else letExpression g set
  | "function" => functionStatement g alone set false
  | "class" => classStatement g alone set
  | "async" =>
    if ← functionFollows then functionStatement g alone set true else expressionStatement g set
  | "import" =>
    let isTerm ← ahead (do
      advance
      return (← atSign "(") || (← atSign ".")) false
    if isTerm then expressionStatement g set else importStatement set
  | "export" => exportStatement g set
  | _ => otherStatement g alone set

def unmarkedStatement (g : Grammar) (alone : Bool) (set : Setting) : Parser Term := do
  match ← lexeme with
  | .sign "\x7b" => return .block (← blockItems g set)
  | .sign ";" =>
    advance
    return .empty
  | .sign "@" => classStatement g alone set
  | .word w escaped => wordStatement g alone set w escaped
  | _ => expressionStatement g set

def markDeclared : Term → Term
  | .function head params body => markNoEffects (.function head params body)
  | .var .const (.declarator goal (some value) :: ds) =>
    .var .const (.declarator goal (some (markNoEffects value)) :: ds)
  | .exported t => .exported (markDeclared t)
  | t => t

def statementItem (g : Grammar) (alone : Bool) (set : Setting) : Parser Term := do
  let marked := (← token).noEffects
  let t ← unmarkedStatement g alone set
  return if marked then markDeclared t else t

end TemplateWiring.Script.Grammar
