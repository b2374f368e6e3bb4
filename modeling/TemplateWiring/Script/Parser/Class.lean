import TemplateWiring.Script.Parser.Function

namespace TemplateWiring.Script.Grammar

open TemplateWiring.Script.Parser

structure MemberName where
  key : Term
  text : String
  start : Nat

/-- Reads the name of a class member, which may be private. Who may use a private member is said by
its name alone. -/
def memberName (g : Grammar) (set : Setting) (ms : List Modifier) : Parser MemberName := do
  let start ← offset
  match ← lexeme with
  | .hash name =>
    let place ← here
    if name == "constructor" then record .privateConstructor start
    for m in ms do
      if accessWords.contains m.word then record .privateAccessibility m.offset
    advance
    return ⟨.hash name, ← textSince place start, start⟩
  | _ =>
    let (key, text) ← propertyName g set
    return ⟨key, text, start⟩

def checkMethodName (isStatic : Bool) (kind : MethodKind) (isAsync isGenerator : Bool)
    (name : MemberName) : Parser Unit := do
  let written? := name.key.writtenKey?
  if isStatic then
    if written? == some "prototype" then record .staticPrototype name.start
  else if written? == some "constructor" then
    match kind with
    | .getter => record .accessorConstructor name.start
    | .setter => record .accessorConstructor name.start
    | _ =>
      if isGenerator then record .generatorConstructor name.start
      if isAsync then record .asyncConstructor name.start

def isAccessorKind (kind : MethodKind) : Bool := kind == .getter || kind == .setter

def methodRefusal? (kind : MethodKind) (word : String) : Option Complaint :=
  match word with
  | "readonly" => some .readonlyMethod
  | "async" => if isAccessorKind kind then some (.misplacedModifier word) else none
  | _ => none

def methodRest (g : Grammar) (set : Setting) (decs : List Term) (ms : List Modifier)
    (kind : MethodKind) (isGenerator isOptional : Bool) (name : MemberName) : Parser Term := do
  let words := memberWords ms isOptional
  let isAsync := hasModifier ms "async" && !isAccessorKind kind
  let s ← signature g set isAsync isGenerator (← offset)
  checkAccessor kind s
  checkMethodName words.isStatic kind isAsync isGenerator name
  if words.isAbstract then
    let what := if isAccessorKind kind then "Accessor" else "Method"
    record (.abstractBody what name.text) name.start
  refuse ms (methodRefusal? kind)
  return .method decs words kind isAsync isGenerator name.key s.params.items s.body
    ⟨name.text, s.paramsText, s.bodyText⟩

def fieldRefusal? (word : String) : Option Complaint :=
  match word with
  | "async" | "export" | "default" => some (.misplacedModifier word)
  | _ => none

def fieldRest (g : Grammar) (set : Setting) (decs : List Term) (ms : List Modifier)
    (isOptional : Bool) (name : MemberName) : Parser Term := do
  discard (eatSign "!")
  let words := memberWords ms isOptional
  let written? := name.key.writtenKey?
  if written? == some "constructor" then record .fieldConstructor name.start
  if words.isStatic && written? == some "prototype" then record .staticPrototype name.start
  refuse ms fieldRefusal?
  let value? ←
    if ← eatSign "=" then
      pure (some (← g.expression
        { set with allowIn := true, inYield := false, inAwait := false, inDecorator := false }))
    else pure none
  if words.isAbstract && value?.isSome then record (.abstractValue name.text) name.start
  if ← canEnd then
    discard (eatSign ";")
    return .field decs words (hasModifier ms "accessor") name.key name.text value?
  else stop (.expected ";" (← lexeme).found) (← offset)

def staticBlock (g : Grammar) (set : Setting) : Parser Term := do
  advanceWord
  expectSign "\x7b"
  let inner : Setting :=
    { set with allowIn := true, inAwait := true, inYield := false, inReturn := false }
  let body ← whilst (do return !(← atSign "\x7d")) (g.item false inner)
  expectSign "\x7d"
  return .staticBlock body

/-- Whether brackets hold the name of an index and no expression. -/
def indexAhead : Parser Bool :=
  ahead (do
    expectSign "["
    match ← lexeme with
    | .word w _ =>
      let bindable := (← lexeme).isBindable
      advance
      if modifierWords.contains w && (← lexeme).isBindable then return true
      else if !bindable then return false
      else if (← atSign ":") || (← atSign ",") then return true
      else if ← eatSign "?" then
        return (← atSign ":") || (← atSign ",") || (← atSign "]")
      else return false
    | _ => return false) false

/-- Whether a constructor starts here. A string that is no name of a method is a field. -/
def atConstructor (isStatic : Bool) : Parser Bool := do
  if isStatic then return false
  else
    match ← lexeme with
    | .word "constructor" _ => return true
    | .string value _ =>
      if plainText? value == some "constructor".toList then ahead (do advance; atSign "(") false
      else return false
    | _ => return false

def classMember (g : Grammar) (set : Setting) : Parser Term := do
  let start ← offset
  let decs ← decorators g set
  let ms ← modifiers true
  if (← atWord "static") && (← ahead (do advance; atSign "\x7b") false) then
    if !decs.isEmpty then record .misplacedDecorator start
    staticBlock g set
  else if ← accessorWord "get" then
    methodRest g set decs ms .getter false false (← memberName g set ms)
  else if ← accessorWord "set" then
    methodRest g set decs ms .setter false false (← memberName g set ms)
  else if ← atConstructor (hasModifier ms "static") then
    methodRest g set decs ms .constructor false false (← memberName g set ms)
  else if ← indexAhead then
    advance
    advance
    unexpected
  else
    let isGenerator ← eatSign "*"
    let name ← memberName g set ms
    let isOptional ← eatSign "?"
    if isGenerator || (← atSign "(") then
      methodRest g set decs ms .plain isGenerator isOptional name
    else fieldRest g set decs ms isOptional name

def classMembers (g : Grammar) (set : Setting) : (bound : Nat) → Parser (List Term)
  | 0 => return []
  | bound + 1 => do
    let _ ← whilst (eatSign ";") (pure ())
    if ← atSign "\x7d" then return []
    else
      let m ← withComments (classMember g set)
      let rest ← classMembers g set bound
      return m :: rest

structure Heritage where
  parent : Option Term := none
  interfaces : List String := []
  interfacesStart : Option Nat := none

def dottedName (set : Setting) : Parser String := do
  let first ← bindingName set
  let more ← whilst (eatSign ".") anyName
  return String.intercalate "." (first :: more)

def parentClause (g : Grammar) (set : Setting) (h : Heritage) : Parser Heritage := do
  if h.parent.isSome then record (.repeatedClause "extends") (← offset)
  else
    match h.interfacesStart with
    | some start => record .clauseOrder start
    | none => pure ()
  advanceWord
  let parent ← g.chain set
  let _ ← whilst (eatSign ",") do
    record .severalParents (← offset)
    g.chain set
  return { h with parent := some parent }

def interfacesClause (set : Setting) (h : Heritage) : Parser Heritage := do
  let start ← offset
  if h.interfacesStart.isSome then record (.repeatedClause "implements") start
  advanceWord
  let first ← dottedName set
  let more ← whilst (eatSign ",") (dottedName set)
  return { h with interfaces := first :: more, interfacesStart := some start }

def heritage (g : Grammar) (set : Setting) : (bound : Nat) → Heritage → Parser Heritage
  | 0, h => return h
  | bound + 1, h => do
    if ← atWord "extends" then heritage g set bound (← parentClause g set h)
    else if ← atWord "implements" then heritage g set bound (← interfacesClause set h)
    else return h

def classRest (g : Grammar) (set : Setting) (decs : List Term) : Parser Term := do
  advanceWord
  let name? ←
    if (← lexeme).isBindable && !(← atWord "implements") then
      pure (some (← bindingNameAt set))
    else pure none
  let h ← heritage g set (← remaining) {}
  expectSign "\x7b"
  let members ← classMembers g { set with allowIn := true } (← remaining)
  expectSign "\x7d"
  return .classExpr decs name? h.parent h.interfaces members

end TemplateWiring.Script.Grammar
