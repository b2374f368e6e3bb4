import TemplateWiring.Script.Parser.Primary

namespace TemplateWiring.Script.Grammar

open TemplateWiring.Script.Parser

structure Access where
  term : Term
  optional : Bool

def indexKey (g : Grammar) (set : Setting) : Parser Term := do
  expectSign "["
  let key ← g.expression (inner set)
  expectSign "]"
  return key

def memberWord : Parser String := do
  match ← lexeme with
  | .hash name =>
    advance
    return "#" ++ name
  | _ => anyName

def optionalAccess? (g : Grammar) (set : Setting) (object : Term) : Parser (Option Term) := do
  let next ← ahead (do advance; lexeme) .finish
  match next with
  | .sign "[" =>
    if set.inDecorator then return none
    else
      advance
      return some (.index object (← indexKey g set) true)
  | .hash _ =>
    advance
    return some (.dot object (← memberWord) true)
  | .word .. =>
    advance
    return some (.dot object (← memberWord) true)
  | _ => return none

def taggedTemplate (g : Grammar) (set : Setting) (a : Access) : Parser Access := do
  if a.optional then record .optionalTemplate (← offset)
  let (parts, values) ← template g set true
  return { a with term := .tagged a.term parts values }

def accesses (g : Grammar) (set : Setting) : (bound : Nat) → Access → Parser Access
  | 0, a => return a
  | bound + 1, a => do
    match ← lexeme with
    | .sign "[" =>
      if set.inDecorator then return a
      else
        let key ← indexKey g set
        accesses g set bound { a with term := .index a.term key false }
    | .sign "." =>
      advance
      let name ← memberWord
      accesses g set bound { a with term := .dot a.term name false }
    | .sign "?." =>
      match ← optionalAccess? g set a.term with
      | some term => accesses g set bound ⟨term, true⟩
      | none => return a
    | .template .. => accesses g set bound (← taggedTemplate g set a)
    | _ => return a

/-- The comments before the last token, when it is a single character. -/
def lastComments : Parser (List Comment) := fun s =>
  let t := s.previous
  .ok (if t.start + 1 = t.stop then t.comments else [], s)

def isImportCall : Term → Bool
  | .importCall .. => true
  | _ => false

def constructArguments (g : Grammar) (set : Setting) : Parser (List Term) := do
  if ← atSign "(" then arguments g set
  else
    let cs ← lastComments
    return if cs.isEmpty then [] else [.remarks cs]

def construct (g : Grammar) (set : Setting) : Parser Term := do
  let start ← offset
  advanceWord
  if ← eatSign "." then
    if ← eatWord "target" then return .metaName "new.target"
    else stop .newTarget start
  else
    let calleeStart ← offset
    let (callee, optional) ← g.member set
    let args ← constructArguments g set
    if isImportCall callee then record .newImport calleeStart
    if optional then record .optionalNew start
    return .construct callee args false

/-- A term whose comments are not kept but for that there were some. -/
def forgetComments : Term → Term
  | .noted _ inner => .noted [] inner
  | t => t

def importArguments (g : Grammar) (set : Setting) (start : Nat) : Parser (List Term) := do
  expectSign "("
  if ← atSign ")" then stop .importSpecifier start
  else
    let item := withComments (g.assignment (inner set))
    let first ← item
    let second ←
      if ← eatSign "," then
        if ← atSign ")" then pure [] else pure [forgetComments (← item)]
      else pure []
    discard (eatSign ",")
    if ← atSign ")" then closing ")" (first :: second)
    else stop .importArguments start

def importTerm (g : Grammar) (set : Setting) : Parser Term := do
  let start ← offset
  advanceWord
  if ← eatSign "." then
    match ← lexeme with
    | .word "meta" _ =>
      advanceWord
      return .metaName "import.meta"
    | .word "source" _ =>
      advanceWord
      return .importCall (some "source") (← importArguments g set start)
    | .word "defer" _ =>
      advanceWord
      return .importCall (some "defer") (← importArguments g set start)
    | _ => stop .importMeta start
  else if ← atSign "(" then return .importCall none (← importArguments g set start)
  else unexpected

def memberHead (g : Grammar) (set : Setting) : Parser Term := do
  match ← lexeme with
  | .word "super" _ =>
    let start ← offset
    advanceWord
    let used := (← atSign ".") || (← atSign "(") || (← atSign "[")
    if !used then record .misplacedSuper start
    return .super
  | .word "new" _ => construct g set
  | .word "import" _ => importTerm g set
  | _ => primary g set

def memberExpression (g : Grammar) (set : Setting) : Parser (Term × Bool) := do
  let head ← memberHead g set
  let a ← accesses g set (← remaining) ⟨head, false⟩
  return (a.term, a.optional)

def optionalCall (g : Grammar) (set : Setting) (start : Nat) (a : Access) : Parser Access := do
  match ← lexeme with
  | .sign "(" => return ⟨.call a.term (← arguments g set) true false, true⟩
  | .template .. => taggedTemplate g set { a with optional := true }
  | _ => stop .optionalName start

def calls (g : Grammar) (set : Setting) : (bound : Nat) → Access → Parser Access
  | 0, a => return a
  | bound + 1, a => do
    let a ← accesses g set (← remaining) a
    let start ← offset
    if ← eatSign "?." then calls g set bound (← optionalCall g set start a)
    else if ← atSign "(" then
      let args ← arguments g set
      calls g set bound { a with term := .call a.term args false false }
    else return a

/-- Accesses and calls; a chain with an optional link is one term. -/
def chainExpression (g : Grammar) (set : Setting) : Parser Term := do
  let (head, optional) ← memberExpression g set
  let a ← calls g set (← remaining) ⟨head, optional⟩
  return if a.optional then .chain a.term else a.term

end TemplateWiring.Script.Grammar
