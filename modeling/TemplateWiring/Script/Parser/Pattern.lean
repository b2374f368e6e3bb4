import TemplateWiring.Script.Parser.Basic

namespace TemplateWiring.Script.Grammar

open TemplateWiring.Script.Parser

/-- A property's name and its source text; the text of a computed name is what its brackets
enclose. -/
def propertyName (g : Grammar) (set : Setting) : Parser (Term × String) := do
  let place ← here
  let start ← offset
  let plain (key : Term) : Parser (Term × String) := do
    advance
    return (key, ← textSince place start)
  match ← lexeme with
  | .string value _ => plain (.string value)
  | .number value _ => plain (.number value)
  | .bigint digits _ => plain (.bigint digits)
  | .word text _ => plain (.ident text)
  | .sign "[" =>
    advance
    let place ← here
    let start ← offset
    let key ← g.assignment { set with allowIn := true }
    let text ← textSince place start
    expectSign "]"
    return (.computed key, text)
  | _ => unexpected

def patternWithDefault (g : Grammar) (set : Setting) : Parser Term := do
  let inner ← g.pattern set
  if ← eatSign "=" then
    return .withDefault inner (← g.assignment { set with allowIn := true })
  else return inner

def restPattern (g : Grammar) (set : Setting) : Parser Term := do
  let start ← offset
  let inner ← patternWithDefault g set
  match inner with
  | .withDefault .. => record .restInitializer start
  | _ => pure ()
  return .rest inner

structure RestList where
  items : List Term
  restStart : Option Nat

def isRest : Term → Bool
  | .rest _ => true
  | _ => false

/-- Goes on with a list in which one element may take the rest; that element should be the last.
`lastRest` is the offset of a rest that has no follower yet. -/
def restTail (close : String) (element : Parser Term) (complaint : Complaint) :
    (bound : Nat) → (lastRest : Option Nat) → Parser RestList
  | 0, lastRest => return ⟨[], lastRest⟩
  | bound + 1, lastRest => do
    if ← atSign close then return ⟨[], lastRest⟩
    else if ← atSign "," then
      let comma ← offset
      advance
      if ← atSign close then
        if lastRest.isSome then record .restTrailingComma comma
        return ⟨[], lastRest⟩
      else
        match lastRest with
        | some start => record complaint start
        | none => pure ()
        let start ← offset
        let a ← element
        let others ← restTail close element complaint bound (if isRest a then some start else none)
        return { others with items := a :: others.items }
    else stop (.expectedEither "," close (← lexeme).found) (← offset)

def withRest (close : String) (element : Parser Term) (complaint : Complaint) :
    Parser RestList := do
  if ← atSign close then return ⟨[], none⟩
  else
    let start ← offset
    let a ← element
    let others ←
      restTail close element complaint (← remaining) (if isRest a then some start else none)
    return { others with items := a :: others.items }

def patternElement (g : Grammar) (set : Setting) : Parser Term := do
  if ← atSign "," then return .hole
  else if ← eatSign "..." then restPattern g set
  else patternWithDefault g set

def objectRest (g : Grammar) (set : Setting) : Parser Term := do
  let start ← offset
  let t ← restPattern g set
  match t with
  | .rest (.placed _ (.ident _)) => pure ()
  | _ => record .invalidRestElement start
  return t

def patternField (g : Grammar) (set : Setting) : Parser Term := do
  if ← eatSign "..." then objectRest g set
  else
    let start ← offset
    let bindable := (← lexeme).isBindable
    let (key, _) ← propertyName g set
    match key, bindable && !(← atSign ":") with
    | .ident name, true =>
      if ← eatSign "=" then
        return .short name start (some (← g.assignment { set with allowIn := true }))
      else return .short name start none
    | _, _ =>
      expectSign ":"
      return .pair key (← patternWithDefault g set)

def bindingPattern (g : Grammar) (set : Setting) : Parser Term := do
  if ← eatSign "[" then
    let list ← withRest "]" (patternElement g set) .restElementNotLast
    expectSign "]"
    return .arrayPattern false list.items
  else if ← eatSign "\x7b" then
    let list ← withRest "\x7d" (patternField g set) .restElementNotLast
    expectSign "\x7d"
    return .objectPattern false list.items
  else
    let start ← offset
    return .placed start (.ident (← bindingName set))

end TemplateWiring.Script.Grammar
