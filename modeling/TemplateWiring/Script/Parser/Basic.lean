import TemplateWiring.Script.Ast
import TemplateWiring.Script.Parser.Pending
import TemplateWiring.Script.Token.Scan

/-! The state a script is parsed in and the steps that every production is made of. A recorded
fault lets parsing go on; the fault that stops it comes after those recorded before it. Faults of
tokens come before all others. -/

namespace TemplateWiring.Script

structure Setting where
  allowIn : Bool := true
  inYield : Bool := false
  inAwait : Bool := false
  inReturn : Bool := false
  inDecorator : Bool := false
  deriving DecidableEq, Repr

structure State where
  current : Scanned
  previous : Token
  /-- More than the number of tokens. -/
  bound : Nat
  /-- Newest first. -/
  recorded : List Fault := []
  tokenFaults : List Fault := []
  /-- Starts of `a = 1` members of objects that are not patterns yet. -/
  pending : Pending := {}
  firstComment : Option (Nat × Bool) := none
  /-- Starts of parentheses that turned out not to hold the parameters of an arrow function. -/
  notArrow : List Nat := []

structure Halt where
  fault : Fault
  recorded : List Fault
  tokenFaults : List Fault
  firstComment : Option (Nat × Bool)
  notArrow : List Nat
  deriving Repr

abbrev Parser := StateT State (Except Halt)

namespace Parser

def start (s : List Char) : State :=
  let t := scanFirst s
  { current := t
    previous := ⟨.finish, 0, 0, true, [], false, false⟩
    bound := s.length + 2
    tokenFaults := t.faults.reverse
    firstComment := t.firstComment }

def token : Parser Token := fun s => .ok (s.current.token, s)

def lexeme : Parser Lexeme := fun s => .ok (s.current.token.lexeme, s)

def offset : Parser Nat := fun s => .ok (s.current.token.start, s)

def here : Parser (List Char) := fun s => .ok (s.current.here, s)

def comments : Parser (List Comment) := fun s => .ok (s.current.token.comments, s)

def previousStop : Parser Nat := fun s => .ok (s.previous.stop, s)

def remaining : Parser Nat := fun s => .ok (s.bound, s)

def withFaults (t : Scanned) (s : State) : State :=
  { s with current := t, tokenFaults := t.faults.reverse ++ s.tokenFaults }

def advance : Parser Unit := fun s =>
  let t := scanNext s.current
  .ok ((), withFaults t
    { s with
      previous := s.current.token
      firstComment := s.firstComment.orElse fun _ => t.firstComment })

def rescan (f : Scanned → Scanned) : Parser Unit := fun s => .ok ((), withFaults (f s.current) s)

def record (complaint : Complaint) (offset : Nat) : Parser Unit := fun s =>
  .ok ((), { s with recorded := ⟨complaint, offset⟩ :: s.recorded })

def halt (s : State) (fault : Fault) : Halt :=
  ⟨fault, s.recorded, s.tokenFaults, s.firstComment, s.notArrow⟩

def stop {α : Type} (complaint : Complaint) (offset : Nat) : Parser α := fun s =>
  .error (halt s ⟨complaint, offset⟩)

/-- Stops at the current token. At the end of the text, and at what is no token, the newest fault of
a token takes the place of the general complaint. -/
def unexpected {α : Type} : Parser α := fun s =>
  let start := s.current.token.start
  let general :=
    halt s ⟨if isDiffMarker s.current then .diffMarker else .unexpectedToken, start⟩
  match s.current.token.lexeme, s.tokenFaults with
  | .finish, f :: fs => .error { general with fault := f, tokenFaults := fs }
  | .unknown, f :: fs => .error { general with fault := f, tokenFaults := fs }
  | _, _ => .error general

def ahead {α : Type} (p : Parser α) (otherwise : α) : Parser α := fun s =>
  match p s with
  | .ok (a, _) => .ok (a, s)
  | .error _ => .ok (otherwise, s)

/-- Tries a parser on what may be the parameters of an arrow function. When it stops, only that is
remembered. -/
def attempt {α : Type} (p : Parser α) : Parser (Option α) := fun s =>
  let start := s.current.token.start
  if s.notArrow.contains start then .ok (none, s)
  else
    match p s with
    | .ok (a, s') => .ok (some a, s')
    | .error h => .ok (none, { s with notArrow := start :: h.notArrow })

def atSign (text : String) : Parser Bool := do return (← lexeme).isSign text

def atWord (text : String) : Parser Bool := do return (← lexeme).isWord text

def onNewLine : Parser Bool := do return (← token).newline

/-- Passes a token that is read as a keyword, if it is a word. Keywords are spelt without
escapes. -/
def advanceWord : Parser Unit := do
  match ← lexeme with
  | .word _ true => record .escapedKeyword (← offset)
  | _ => pure ()
  advance

def eatSign (text : String) : Parser Bool := do
  if ← atSign text then
    advance
    return true
  else return false

def eatWord (text : String) : Parser Bool := do
  if ← atWord text then
    advanceWord
    return true
  else return false

def expectSign (text : String) : Parser Unit := do
  if ← atSign text then advance
  else stop (.expected text (← lexeme).found) (← offset)

def expectWord (text : String) : Parser Unit := do
  if ← atWord text then advanceWord
  else stop (.expected text (← lexeme).found) (← offset)

def textSince (place : List Char) (start : Nat) : Parser String := do
  return String.ofList (Text.takeBytes ((← previousStop) - start) place)

/-- Whether a statement may end here without a semicolon, or with one. -/
def canEnd : Parser Bool := do
  match ← lexeme with
  | .sign ";" => return true
  | .sign "\x7d" => return true
  | .finish => return true
  | _ => onNewLine

def endStatement : Parser Unit := do
  if ← canEnd then discard (eatSign ";")
  else stop .missingSemicolon (← previousStop)

def manyWhile {α : Type} (test : Parser Bool) (step : Parser α) : (bound : Nat) → Parser (List α)
  | 0 => return []
  | bound + 1 => do
    if ← test then
      let a ← step
      let rest ← manyWhile test step bound
      return a :: rest
    else return []

def whilst {α : Type} (test : Parser Bool) (step : Parser α) : Parser (List α) := do
  manyWhile test step (← remaining)

def separatedTail {α : Type} (close : String) (step : Parser α) :
    (bound : Nat) → Parser (List α × Option Nat)
  | 0 => return ([], none)
  | bound + 1 => do
    if ← atSign close then return ([], none)
    else if ← atSign "," then
      let comma ← offset
      advance
      if ← atSign close then return ([], some comma)
      else
        let a ← step
        let (rest, trailing) ← separatedTail close step bound
        return (a :: rest, trailing)
    else stop (.expectedEither "," close (← lexeme).found) (← offset)

def separated {α : Type} (close : String) (step : Parser α) : Parser (List α × Option Nat) := do
  if ← atSign close then return ([], none)
  else
    let a ← step
    let (rest, trailing) ← separatedTail close step (← remaining)
    return (a :: rest, trailing)

def withComments (p : Parser Term) : Parser Term := do
  let cs ← comments
  return Term.withComments cs (← p)

/-- Passes a closing sign. The comments before it go to the end of the list it closes. -/
def closing (close : String) (items : List Term) : Parser (List Term) := do
  let cs ← comments
  expectSign close
  return if cs.isEmpty then items else items ++ [.remarks cs]

def anyName : Parser String := do
  match ← lexeme with
  | .word text _ =>
    advance
    return text
  | _ => unexpected

def bindingName (set : Setting) : Parser String := do
  match ← lexeme with
  | .word text _ =>
    if (← lexeme).isBindable then
      if text = "await" && set.inAwait then record .awaitName (← offset)
      if text = "yield" && set.inYield then record .yieldName (← offset)
      advance
      return text
    else stop (.reservedName text) (← offset)
  | _ => unexpected

def bindingNameAt (set : Setting) : Parser NameAt := do
  let start ← offset
  return ⟨← bindingName set, start⟩

end Parser

structure Grammar where
  assignment : Setting → Parser Term
  binary : Nat → Setting → Parser Term
  unary : Setting → Parser Term
  chain : Setting → Parser Term
  member : Setting → Parser (Term × Bool)
  statement : (alone : Bool) → Setting → Parser Term
  pattern : Setting → Parser Term

namespace Grammar

def expression (g : Grammar) (set : Setting) : Parser Term := do
  let first ← g.assignment set
  if ← Parser.atSign "," then
    let more ← Parser.whilst (Parser.eatSign ",") (g.assignment set)
    return .sequence (first :: more)
  else return first

def item (g : Grammar) (alone : Bool) (set : Setting) : Parser Term :=
  Parser.withComments (g.statement alone set)

end Grammar

end TemplateWiring.Script
