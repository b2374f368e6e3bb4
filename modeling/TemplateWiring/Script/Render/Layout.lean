import TemplateWiring.Text.Blank
import TemplateWiring.Script.Ast
import TemplateWiring.Script.Quoted
import TemplateWiring.Script.Token.Gap

namespace TemplateWiring.Script

def tabs (n : Nat) : String := String.ofList (List.replicate n '\t')

def wrapped (yes : Bool) (s : String) : String := if yes then "(" ++ s ++ ")" else s

def word (yes : Bool) (s : String) : String := if yes then s else ""

def joined : List String → String
  | [] => ""
  | [s] => s
  | s :: ss => s ++ ", " ++ joined ss

/-- Between brackets: on one line, or, when there are more than `most`, on lines of their own. -/
def listed (opening closing : String) (most indent : Nat) (parts : List String) : String :=
  if parts.length ≤ most then opening ++ joined parts ++ closing
  else
    let lines := parts.map fun s => "\n" ++ tabs (indent + 1) ++ s
    opening ++ String.intercalate "," lines ++ "\n" ++ tabs indent ++ closing

def braces (indent : Nat) (lines : String) : String :=
  if lines.isEmpty then "\x7b\x7d" else "\x7b\n" ++ lines ++ tabs indent ++ "\x7d"

def splitLines : List Char → List (List Char)
  | [] => [[]]
  | '\r' :: '\n' :: s => [] :: splitLines s
  | c :: s =>
    if isLineBreak c then [] :: splitLines s
    else
      match splitLines s with
      | [] => [[c]]
      | l :: ls => (c :: l) :: ls

def commentLine (indent : Nat) (line : List Char) : List Char :=
  let goesOn := (Text.after? ['/', '*'] line).isNone
  let ends := (Text.before? ['*', '/'] line).isSome
  (if goesOn then List.replicate indent '\t' else []) ++ guardTags (Text.trimStart line) ++
    (if ends then [] else ['\n'])

def commentText (indent : Nat) (c : Comment) : String :=
  if c.isLine then guarded c.text
  else String.ofList ((splitLines c.text.toList).flatMap (commentLine indent))

def endLine (cs : List Comment) : Bool :=
  match cs.getLast? with
  | some c => c.endsLine
  | none => true

/-- Comments from the text of the first one on, and the end of their line. Each stays on the line of
the one before it unless that one ends its line. -/
def commentsText (indent : Nat) : List Comment → String
  | [] => ""
  | [c] => commentText indent c ++ word c.endsLine "\n"
  | c :: cs =>
    commentText indent c ++ (if c.endsLine then "\n" ++ tabs indent else " ") ++
      commentsText indent cs

/-- What a statement follows: a line break, a word or bracket on its line, a word without a blank, or
a text that ends where the statement goes on. -/
inductive Flow where
  | line
  | space
  | glued
  | after (text : String)
  deriving DecidableEq, Repr

namespace Flow

def lead (indent : Nat) : Flow → String
  | line => tabs indent
  | space => " "
  | glued => tabs indent
  | after text => text

def leadComment (indent : Nat) (onNewLine : Bool) : Flow → String
  | line => tabs indent
  | space => word onNewLine "\n" ++ " "
  | glued => word onNewLine "\n" ++ tabs indent
  | after text => text

def pass (indent : Nat) (cs : List Comment) (flow : Flow) : Flow :=
  match cs with
  | [] => flow
  | c :: _ =>
    after (flow.leadComment indent c.afterBreak ++ commentsText indent cs ++
      (if endLine cs then tabs indent else " "))

end Flow

def closingComments (items : List Term) : List Comment :=
  match items.getLast? with
  | some (.remarks cs) => cs
  | _ => []

def functionBraces (indent : Nat) (lines : String) (cs : List Comment) : String :=
  if lines.isEmpty && cs.all (fun c => !c.isLine && !c.touchesBreak) then
    "\x7b" ++ word (!cs.isEmpty) (tabs indent) ++ commentsText indent cs ++ "\x7d"
  else
    "\x7b\n" ++ lines ++ word (!cs.isEmpty) (tabs (indent + 1)) ++ commentsText (indent + 1) cs ++
      (if endLine cs then tabs indent else " ") ++ "\x7d"

def commentLines (indent : Nat) (cs : List Comment) : String :=
  String.join (cs.map fun c => "\n" ++ tabs indent ++ commentText indent c)

def hasComments (args : List Term) : Bool :=
  args.any fun
    | .noted .. => true
    | .remarks _ => true
    | _ => false

/-- Arguments between parentheses: on one line, or, when there are comments, on lines of their own
with the comments after them. -/
def argumentsText (indent closingIndent : Nat) (args : List Term) (parts : List String) : String :=
  if hasComments args then
    "(" ++ String.intercalate "," parts ++ commentLines (indent + 1) (closingComments args) ++ "\n" ++
      tabs closingIndent ++ ")"
  else "(" ++ joined parts ++ ")"

end TemplateWiring.Script
