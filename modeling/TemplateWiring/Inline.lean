import TemplateWiring.Behavior
import TemplateWiring.Document
import TemplateWiring.Template.Tree

namespace TemplateWiring.Inline

def malformedText (complaint : String) : String :=
  "Unable to parse JavaScript for component class. Error: " ++ complaint

def derivedText : String :=
  "A component class is not allowed to use `extends`. See: " ++
    "https://github.com/marko-js/marko/wiki/Error:-Component-class-with-extends"

def conflictText (other : Module) : String :=
  "The component has both an inline component `class` and a separate `" ++ other.displayName ++
    "`. This is not allowed. See: " ++
    "https://github.com/marko-js/marko/wiki/Error:-Component-inline-and-external"

/-- A position moved on by an offset, no further than positions go. -/
def shifted (pos : UInt32) (offset : Nat) : UInt32 := (min (pos.toNat + offset) 4294967295).toUInt32

def reportMalformed (d : Document) (id : Nat) (pos : UInt32) (complaint : String) :
    Option Nat → Document
  | some offset => d.reportPos Code.classSyntax (malformedText complaint) (shifted pos offset)
  | none => d.reportNode Code.classSyntax (malformedText complaint) id pos

def module (d : Document) (constant : String) : Module :=
  .inline constant d.filename ("./" ++ d.basename)

/-- Pools the object of a class. It becomes the renderer, and the component where there is none. -/
def install (d : Document) (object : String) : Document :=
  let (pooled, constant) := d.addConstant d.options.componentConstantName object
  let m := module d constant
  { pooled with component := some (d.component.getD m), renderer := some m }

def convertTo (object : Except Behavior.Refusal String) (n : Node) (id : Nat) (d : Document) :
    Except Failure (Document × Outcome) :=
  match object with
  | .error (.malformed complaint offset) =>
    .ok (reportMalformed d id n.pos complaint offset, .diagnosed)
  | .error .derived => .ok (d.reportNode Code.classExtends derivedText id n.pos, .diagnosed)
  | .error (.fatal e) => .error e
  | .ok object =>
    match d.renderer with
    | some other =>
      .ok (d.reportNode Code.inlineAndExternal (conflictText other) id n.pos, .diagnosed)
    | none => .ok (install d object, .applied)

def convert (n : Node) (id : Nat) (d : Document) : Except Failure (Document × Outcome) :=
  convertTo (Behavior.ofClass (n.opening.getD "") d.options.createHookName) n id d

def step (t : Tree) (id : Nat) (d : Document) : Except Failure (Tree × Document × Outcome) :=
  match convert (t.node id) id d with
  | .error e => .error e
  | .ok (d, outcome) => .ok (t.detachAll (outcome.leaving id), d, outcome)

end TemplateWiring.Inline
