import TemplateWiring.Document
import TemplateWiring.Template.Tree

namespace TemplateWiring.Style

def defaultLanguage : String := "css"

def unbrace (name : String) : List Char :=
  let s := name.toList
  let s := (Text.after? ['{'] s).getD s
  (Text.before? ['}'] s).getD s

inductive Reading where
  | block (language : String) (code : List Char)
  | plain
  | unsupported (name : String)
  deriving DecidableEq, Repr

/-- Attributes are read from the last to the first. The first attribute wins where several give a
code or a language; any other attribute is refused once a block has been seen. -/
def readAttrs : List Attr → (language : String) → (code : Option (List Char)) → Reading
  | [], language, some code => .block language code
  | [], _, none => .plain
  | a :: attrs, language, code =>
    if a.isBlock then readAttrs attrs language (some (unbrace a.name))
    else if a.name = "class" then
      match a.value with
      | .text language => readAttrs attrs language code
      | _ => .plain
    else if code.isSome then .unsupported a.name
    else readAttrs attrs language code

def read (n : Node) : Reading :=
  if n.body.any (· ≠ "") then .plain else readAttrs n.attrs.reverse defaultLanguage none

def dependency (d : Document) (language : String) (code : List Char) : StyleBlock where
  language := language
  code := String.ofList (Text.trim code)
  virtualPath := "./" ++ d.basename ++ "." ++ language
  path := "./" ++ d.basename

def extract (n : Node) (id : Nat) (d : Document) : Document × Outcome :=
  match read n with
  | .plain => (d, .skipped)
  | .unsupported name =>
    (d.reportNode Code.styleAttribute
      ("Unsupported attribute on the component style tag: " ++ name) id n.pos, .diagnosed)
  | .block language code => (d.addDependency (.style (dependency d language code)), .applied)

def step (t : Tree) (id : Nat) (d : Document) : Tree × Document × Outcome :=
  let (d, outcome) := extract (t.node id) id d
  (t.detachAll (outcome.leaving id), d, outcome)

end TemplateWiring.Style
