import TemplateWiring.Path
import TemplateWiring.Options
import TemplateWiring.Failure
import TemplateWiring.Diagnostic

namespace TemplateWiring

inductive Module where
  | file (filename requirePath : String)
  | inline (constant filename requirePath : String)
  deriving DecidableEq, Repr

namespace Module

def isInline : Module → Bool
  | file .. => false
  | inline .. => true

def filename : Module → String
  | file filename _ => filename
  | inline _ filename _ => filename

def requirePath : Module → String
  | file _ requirePath => requirePath
  | inline _ _ requirePath => requirePath

/-- The file a reader would look for. -/
def displayName (m : Module) : String :=
  match Path.fileName? m.filename.toList with
  | some name => String.ofList name
  | none => m.filename

end Module

structure StyleBlock where
  language : String
  code : String
  virtualPath : String
  path : String
  deriving DecidableEq, Repr

inductive Dependency where
  | path (path : String)
  | style (block : StyleBlock)
  deriving DecidableEq, Repr

structure Constant where
  name : String
  source : String
  deriving DecidableEq, Repr

structure Document where
  filename : String
  options : Options := {}
  component : Option Module := none
  renderer : Option Module := none
  marked : Bool := false
  dependencies : List Dependency := []
  constants : List Constant := []
  diagnostics : List Diagnostic := []
  deriving DecidableEq, Repr

namespace Document

def folder (d : Document) : String := String.ofList (Path.folder d.filename.toList)

def basename (d : Document) : String :=
  match Path.fileName? d.filename.toList with
  | some name => String.ofList name
  | none => ""

def isBound (d : Document) : Bool := d.marked || d.component.isSome

def markBound (d : Document) : Document := { d with marked := true }

/-- Fills the component slot. One inline component cannot follow another. -/
def setComponent (d : Document) (m : Module) : Except Failure Document :=
  match d.component with
  | some existing =>
    if existing.isInline && m.isInline then .error (.duplicateInline existing.requirePath)
    else .ok { d with component := some m }
  | none => .ok { d with component := some m }

def setRenderer (d : Document) (m : Module) : Document := { d with renderer := some m }

def addDependency (d : Document) (dependency : Dependency) : Document :=
  { d with dependencies := d.dependencies ++ [dependency] }

def pooled (constants : List Constant) (name : String) : Bool := constants.any (·.name == name)

def numbered (name : String) (k : Nat) : String := name ++ "_" ++ toString k

/-- The name itself, or else numbered with the least number from 1 on that gives a new name. Among
one more candidates than there are constants, one is new. -/
def freshName (constants : List Constant) (name : String) : String :=
  if pooled constants name then
    let free := (List.range' 1 (constants.length + 1)).find? fun k =>
      !pooled constants (numbered name k)
    numbered name (free.getD 0)
  else name

def addConstant (d : Document) (name source : String) : Document × String :=
  let fresh := freshName d.constants name
  ({ d with constants := d.constants ++ [⟨fresh, source⟩] }, fresh)

def report (d : Document) (diagnostic : Diagnostic) : Document :=
  { d with diagnostics := d.diagnostics ++ [diagnostic] }

def reportNode (d : Document) (code message : String) (node : Nat) (pos : UInt32) : Document :=
  d.report (.atNode code message d.filename node pos)

def reportPos (d : Document) (code message : String) (pos : UInt32) : Document :=
  d.report (.atPos code message d.filename pos)

end Document

end TemplateWiring
