namespace TemplateWiring

namespace Code

def classSyntax : String := "SFC-ERR-CLASS-SYNTAX"
def classExtends : String := "SFC-ERR-CLASS-EXTENDS"
def styleAttribute : String := "SFC-ERR-STYLE-ATTRIBUTE"
def inlineAndExternal : String := "SFC-ERR-INLINE-AND-EXTERNAL"

def rule (code : String) : String :=
  if code = classSyntax then "An inline component class must be a valid class expression."
  else if code = classExtends then
    "Component behavior objects are flat; a component class cannot extend another class."
  else if code = styleAttribute then
    "A component style block only accepts a `class` attribute naming its language."
  else if code = inlineAndExternal then
    "A component is implemented either inline or in a sibling component file, never both."
  else "Unknown rule."

end Code

structure Diagnostic where
  code : String
  message : String
  rule : String
  file : String
  /-- Byte offset in the document. -/
  pos : UInt32
  node : Option Nat
  deriving DecidableEq, Repr

namespace Diagnostic

def atNode (code message file : String) (node : Nat) (pos : UInt32) : Diagnostic :=
  ⟨code, message, Code.rule code, file, pos, some node⟩

def atPos (code message file : String) (pos : UInt32) : Diagnostic :=
  ⟨code, message, Code.rule code, file, pos, none⟩

end Diagnostic

inductive Outcome where
  | applied
  | skipped
  | diagnosed
  deriving DecidableEq, Repr

def Outcome.leaving (o : Outcome) (id : Nat) : List Nat :=
  match o with
  | applied => [id]
  | skipped | diagnosed => []

end TemplateWiring
