import TemplateWiring.Script.Parser.Declaration

namespace TemplateWiring.Script.Grammar

open TemplateWiring.Script.Parser

def plainString : Parser (List StringUnit) := do
  match ← lexeme with
  | .string value _ =>
    advance
    return value
  | _ => unexpected

def moduleName : Parser ModuleName := do
  match ← lexeme with
  | .string value _ =>
    if (plainText? value).isNone then record .exportedHalf (← offset)
    advance
    return .string value
  | _ => return .word (← anyName)

def moduleAttribute : Parser (ModuleName × List StringUnit) := do
  let key ← match ← lexeme with
    | .string value _ => do
      advance
      pure (ModuleName.string value)
    | _ => do pure (ModuleName.word (← anyName))
  expectSign ":"
  return (key, ← plainString)

def moduleSource : Parser ModuleSource := do
  let place ← plainString
  let keyword? ←
    match ← lexeme with
    | .word "with" _ => pure (some "with")
    | .word "assert" _ => do pure (if ← onNewLine then none else some "assert")
    | _ => pure none
  match keyword? with
  | none => return ⟨place, none, []⟩
  | some keyword =>
    advanceWord
    expectSign "\x7b"
    let (attributes, _) ← separated "\x7d" moduleAttribute
    expectSign "\x7d"
    return ⟨place, some keyword, attributes⟩

def importPart (set : Setting) : Parser ImportName := do
  let renamed ← ahead (do
    let _ ← moduleName
    atWord "as") false
  if renamed then
    let outer ← moduleName
    advanceWord
    return .part outer (← bindingName set)
  else
    let own ← bindingName set
    return .part (.word own) own

def importParts (set : Setting) : Parser (List ImportName) := do
  expectSign "\x7b"
  let (parts, _) ← separated "\x7d" (importPart set)
  expectSign "\x7d"
  return parts

def importWhole (set : Setting) : Parser (List ImportName) := do
  expectSign "*"
  expectWord "as"
  return [.whole (← bindingName set)]

/-- What is imported after its main name, if it has one, up to the word before the source. -/
def importNames (set : Setting) (main? : Option String) : Parser (List ImportName) := do
  let names ←
    match main? with
    | some own =>
      if ← eatSign "," then
        if ← atSign "*" then pure (.main own :: (← importWhole set))
        else if ← atSign "\x7b" then pure (.main own :: (← importParts set))
        else unexpected
      else pure [.main own]
    | none =>
      if ← atSign "*" then importWhole set
      else if ← atSign "\x7b" then importParts set
      else pure []
  expectWord "from"
  return names

def importPhase? : Parser (Option String) := do
  match ← lexeme with
  | .word "defer" _ =>
    return if ← ahead (do advance; atSign "*") false then some "defer" else none
  | .word "source" _ =>
    let fits ← ahead (do
      advance
      if !(← lexeme).isBindable then return false
      else if ← atWord "from" then
        advance
        atWord "from"
      else return true) false
    return if fits then some "source" else none
  | _ => return none

/-- A name for something that is no module, after the name. No script has that. -/
def importAlias (start : Nat) : Parser Term := do
  expectSign "="
  if ← eatWord "require" then
    expectSign "("
    discard plainString
    expectSign ")"
  else
    discard anyName
    discard (whilst (eatSign ".") anyName)
  endStatement
  record .importAlias start
  return .empty

def importStatement (set : Setting) : Parser Term := do
  let start ← offset
  advanceWord
  match ← lexeme with
  | .string .. =>
    let source ← moduleSource
    endStatement
    return .importFrom none none source
  | _ =>
    let phase? ← importPhase?
    if phase?.isSome then advanceWord
    let main? ← if (← lexeme).isBindable then pure (some (← bindingName set)) else pure none
    if main?.isSome && !(← atSign ",") && !(← atWord "from") then importAlias start
    else
      let names ← importNames set main?
      let source ← moduleSource
      endStatement
      return .importFrom phase? (some names) source

structure ExportPart where
  name : ExportName
  start : Nat

def exportPart : Parser ExportPart := do
  let start ← offset
  let own ← moduleName
  if ← eatWord "as" then
    let outerStart ← offset
    return ⟨⟨own, ← moduleName, outerStart⟩, start⟩
  else return ⟨⟨own, own, start⟩, start⟩

/-- What is exported from here has a name of its own. -/
def checkExport (p : ExportPart) : Parser Unit := do
  match p.name.own with
  | .string _ => record .exportedString p.start
  | .word w =>
    if reservedWords.contains w || futureWords.contains w then record .exportedReserved p.start

def exportParts : Parser Term := do
  expectSign "\x7b"
  let (parts, _) ← separated "\x7d" exportPart
  expectSign "\x7d"
  let source? ← if ← eatWord "from" then pure (some (← moduleSource)) else pure none
  if source?.isNone then
    for p in parts do checkExport p
  endStatement
  return .exportNames (parts.map (·.name)) source?

def exportAll : Parser Term := do
  expectSign "*"
  let name? ←
    if ← eatWord "as" then
      let start ← offset
      pure (some (← moduleName, start))
    else pure none
  expectWord "from"
  let source ← moduleSource
  endStatement
  return .exportAll name? source

def exportDefault (g : Grammar) (set : Setting) : Parser Term := do
  let start ← offset
  advanceWord
  let marked := (← token).noEffects
  let ofFunction (isAsync : Bool) : Parser Term := do
    let f ← functionDeclaration g set isAsync false
    return .exportDefault start (if marked then markNoEffects f else f)
  let ofValue : Parser Term := do
    let e ← g.assignment (inner set)
    endStatement
    return .exportDefault start (.expr e)
  match ← lexeme with
  | .word "class" _ => return .exportDefault start (← classRest g set [])
  | .sign "@" => return .exportDefault start (← decoratedClass g set)
  | .word "function" _ => ofFunction false
  | .word "async" _ => if ← functionFollows then ofFunction true else ofValue
  | _ => ofValue

def exportStatement (g : Grammar) (set : Setting) : Parser Term := do
  advanceWord
  match ← lexeme with
  | .word "default" _ => exportDefault g set
  | .sign "*" => exportAll
  | .sign "\x7b" => exportParts
  | _ =>
    let (t, needsEnd) ← wordedDeclaration g { set with inAwait := true }
    if needsEnd then endStatement
    return .exported t

end TemplateWiring.Script.Grammar
