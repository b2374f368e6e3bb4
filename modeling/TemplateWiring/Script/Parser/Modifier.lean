import TemplateWiring.Script.Parser.Basic

namespace TemplateWiring.Script.Grammar

open TemplateWiring.Script.Parser

def modifierWords : List String :=
  ["abstract", "accessor", "async", "const", "declare", "export", "default", "in", "public",
    "private", "protected", "out", "override", "readonly", "static"]

def accessWords : List String := ["public", "private", "protected"]

def followsModifier : Parser Bool := do
  match ← lexeme with
  | .hash _ => return true
  | .word .. => return true
  | .string .. => return true
  | .number .. => return true
  | .bigint .. => return true
  | .sign s => return s == "[" || s == "\x7b" || s == "*" || s == "..."
  | _ => return false

def followsAccessor : Parser Bool := do
  match ← lexeme with
  | .hash _ => return true
  | .word .. => return true
  | .string .. => return true
  | .number .. => return true
  | .bigint .. => return true
  | .sign s => return s == "["
  | _ => return false

structure Modifier where
  word : String
  offset : Nat

/-- A modifier: a word for one before something it can modify. All but `static` want it on the
same line. -/
def modifier? (inClass seenStatic : Bool) : Parser (Option Modifier) := do
  match ← lexeme with
  | .word w _ =>
    let start ← offset
    if !modifierWords.contains w then return none
    else if w == "const" && !inClass then return none
    else if w == "static" && seenStatic then return none
    else
      let fits ← ahead (do
        advance
        if w == "static" then
          if inClass && (← atSign "\x7b") then return false
          else followsModifier
        else return !(← onNewLine) && (← followsModifier)) false
      if fits then
        advanceWord
        return some ⟨w, start⟩
      else return none
  | _ => return none

def hasModifier (ms : List Modifier) (word : String) : Bool := ms.any (·.word == word)

def accessOf? (ms : List Modifier) : Option Modifier :=
  ms.find? fun m => accessWords.contains m.word

def modifiersFrom (inClass : Bool) : (bound : Nat) → (seen : List Modifier) →
    Parser (List Modifier)
  | 0, seen => return seen
  | bound + 1, seen => do
    match ← modifier? inClass (hasModifier seen "static") with
    | none => return seen
    | some m =>
      if accessWords.contains m.word && (accessOf? seen).isSome then
        record .repeatedAccessibility m.offset
      else if hasModifier seen m.word then record (.repeatedModifier m.word) m.offset
      modifiersFrom inClass bound (seen ++ [m])

def modifiers (inClass : Bool) : Parser (List Modifier) := do
  modifiersFrom inClass (← remaining) []

def allowOnly (ms : List Modifier) (words : List String) : Parser Unit := do
  for m in ms do
    if !words.contains m.word then record (.misplacedModifier m.word) m.offset

def refusal? (word : String) : Option Complaint :=
  match word with
  | "in" | "out" => some (.typeParameterModifier word)
  | "const" => some .constMember
  | _ => none

def refuse (ms : List Modifier) (refused : String → Option Complaint) : Parser Unit := do
  for m in ms do
    match (refusal? m.word).orElse fun _ => refused m.word with
    | some complaint => record complaint m.offset
    | none => pure ()

def accessorWord (word : String) : Parser Bool := do
  if ← atWord word then
    if ← ahead (do advance; followsAccessor) false then
      advanceWord
      return true
    else return false
  else return false

def memberWords (ms : List Modifier) (isOptional : Bool) : MemberWords :=
  { isDeclared := hasModifier ms "declare"
    isAbstract := hasModifier ms "abstract"
    access := (accessOf? ms).map (·.word)
    isStatic := hasModifier ms "static"
    isReadonly := hasModifier ms "readonly"
    isOptional := isOptional }

end TemplateWiring.Script.Grammar
