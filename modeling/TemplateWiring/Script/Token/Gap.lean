import TemplateWiring.Text.Blank
import TemplateWiring.Script.Comment

/-! What stands between tokens: blank text and comments. A comment belongs to the next token, except
that what ends a line belongs to the line it ends. Some comments are marks for the next token. -/

namespace TemplateWiring.Script

open Text

def isLineBreak (c : Char) : Bool :=
  c == '\n' || c == '\r' || c.toNat == 0x2028 || c.toNat == 0x2029

def isSpace (c : Char) : Bool :=
  let n := c.toNat
  n == 9 || n == 11 || n == 12 || n == 32 || n == 0x85 || n == 0xA0 || n == 0xFEFF ||
    n == 0x1680 || n == 0x180E || (0x2000 ≤ n && n ≤ 0x200B) || n == 0x202F || n == 0x205F ||
    n == 0x3000

inductive Mark where
  | pure
  | noEffects
  deriving DecidableEq, Repr

def markOf? (isLine : Bool) (content : List Char) : Option Mark :=
  match isLine, content with
  | _, '!' :: _ => none
  | false, '*' :: _ => none
  | _, _ =>
    match content.dropWhile Char.isWhitespace with
    | c :: s =>
      if c != '@' && c != '#' then none
      else if (after? "__PURE__".toList s).isSome then some .pure
      else if (after? "__NO_SIDE_EFFECTS__".toList s).isSome then some .noEffects
      else none
    | [] => none

def contains (lead : List Char) : List Char → Bool
  | [] => lead.isEmpty
  | c :: s => (after? lead (c :: s)).isSome || contains lead s

/-- What has been passed since the last token. Comments are newest first. -/
structure Gap where
  /-- Whether the next token is on a line after the last one. -/
  newline : Bool := false
  /-- Whether the line so far is blank but for comments. -/
  atLineStart : Bool
  comments : List Comment := []
  pure : Bool := false
  noEffects : Bool := false
  first : Option (Nat × Bool) := none

namespace Gap

/-- A line break outside comments. What stands before it on the line of the last token belongs
there. -/
def lineBreak (g : Gap) : Gap :=
  let comments := match g.comments with
    | [] => []
    | c :: cs => if g.atLineStart then { c with beforeBreak := true } :: cs else []
  { g with newline := true, atLineStart := true, comments := comments }

def mark (g : Gap) (isLine : Bool) (content : List Char) (start : Nat) : Gap :=
  let first := match g.first with
    | some f => some f
    | none => some (start, contains "@flow".toList content)
  match markOf? isLine content with
  | some .pure => { g with pure := true, first := first }
  | some .noEffects => { g with noEffects := true, first := first }
  | none => { g with first := first }

/-- A comment up to the end of its line. It ends the line of the last token, unless that token
expects more. -/
def line (g : Gap) (expectsMore : Bool) (content : List Char) (start : Nat) : Gap :=
  let text := String.ofList ('/' :: '/' :: content)
  let c : Comment := ⟨text, true, g.atLineStart, true, (markOf? true content).isSome⟩
  let g := g.mark true content start
  let comments :=
    if !g.atLineStart && !expectsMore then [] else c :: g.comments
  { g with newline := true, atLineStart := true, comments := comments }

def block (g : Gap) (content : List Char) (start : Nat) : Gap :=
  let text := String.ofList ('/' :: '*' :: content ++ ['*', '/'])
  let c : Comment := ⟨text, false, g.atLineStart, false, (markOf? false content).isSome⟩
  let g := g.mark false content start
  { g with
    newline := g.newline || content.any isLineBreak
    comments := c :: g.comments }

def written (g : Gap) : List Comment := g.comments.reverse.filter (!·.isMark)

end Gap

structure Passed where
  gap : Gap
  rest : List Char
  pos : Nat
  openComment : Option Nat := none

/-- Where blank text and comments are being passed: between them, or inside one whose characters so
far are given, newest first. -/
inductive Passing where
  | between
  | line (start : Nat) (content : List Char)
  | block (start : Nat) (content : List Char)

def pass (expectsMore : Bool) : Passing → Gap → Nat → List Char → Passed
  | .between, g, pos, [] => ⟨g, [], pos, none⟩
  | .line start content, g, pos, [] => ⟨g.line expectsMore content.reverse start, [], pos, none⟩
  | .block start _, g, pos, [] => ⟨g, [], pos, some start⟩
  | .between, g, pos, '/' :: '/' :: s => pass expectsMore (.line pos []) g (pos + 2) s
  | .between, g, pos, '/' :: '*' :: s => pass expectsMore (.block pos []) g (pos + 2) s
  | .between, g, pos, c :: s =>
    if c == '\n' || c == '\r' then pass expectsMore .between g.lineBreak (pos + 1) s
    else if isLineBreak c then
      pass expectsMore .between { g with newline := true } (pos + c.utf8Size) s
    else if isSpace c then pass expectsMore .between g (pos + c.utf8Size) s
    else ⟨g, c :: s, pos, none⟩
  | .line start content, g, pos, c :: s =>
    if isLineBreak c then
      pass expectsMore .between (g.line expectsMore content.reverse start) (pos + c.utf8Size) s
    else pass expectsMore (.line start (c :: content)) g (pos + c.utf8Size) s
  | .block start content, g, pos, '*' :: '/' :: s =>
    pass expectsMore .between (g.block content.reverse start) (pos + 2) s
  | .block start content, g, pos, c :: s =>
    pass expectsMore (.block start (c :: content)) g (pos + c.utf8Size) s

end TemplateWiring.Script
