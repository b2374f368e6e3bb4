import TemplateWiring.Number.Binary64
import TemplateWiring.Script.Comment
import TemplateWiring.Script.Unit

/-! Scripts as trees. Expressions, patterns, statements and members of classes and objects are all
terms; a list of parameters or elements may hold holes and end in a rest. A class member keeps the
text of its key, parameters and body beside their trees. Comments are kept where they are written
out again: before statements, class members, arguments and the branches of a choice, and at the end
of bodies and arguments. -/

namespace TemplateWiring.Script

inductive MethodKind where
  | plain
  | getter
  | setter
  | constructor
  deriving DecidableEq, Repr

inductive VarKind where
  | var
  | let
  | const
  | resource
  | awaitResource
  deriving DecidableEq, Repr

namespace VarKind

def word : VarKind → String
  | var => "var"
  | «let» => "let"
  | const => "const"
  | resource => "using"
  | awaitResource => "await using"

def disposes : VarKind → Bool
  | resource | awaitResource => true
  | _ => false

end VarKind

structure NameAt where
  text : String
  start : Nat
  deriving DecidableEq, Repr

structure FunctionHead where
  isAsync : Bool
  isGenerator : Bool
  name : Option NameAt
  noEffects : Bool
  deriving DecidableEq, Repr

/-- The words before a class member that are written out again, and the mark after its name. -/
structure MemberWords where
  isDeclared : Bool
  isAbstract : Bool
  access : Option String
  isStatic : Bool
  isReadonly : Bool
  isOptional : Bool
  deriving DecidableEq, Repr

structure MethodText where
  key : String
  params : String
  body : String
  deriving DecidableEq, Repr

inductive ModuleName where
  | word (text : String)
  | string (value : List StringUnit)
  deriving DecidableEq, Repr

inductive ImportName where
  | main (own : String)
  | whole (own : String)
  | part (outer : ModuleName) (own : String)
  deriving DecidableEq, Repr

structure ExportName where
  own : ModuleName
  outer : ModuleName
  start : Nat
  deriving DecidableEq, Repr

structure ModuleSource where
  place : List StringUnit
  keyword : Option String
  attributes : List (ModuleName × List StringUnit)
  deriving DecidableEq, Repr

inductive Term where
  -- names and values
  | this
  | super
  | null
  | bool (value : Bool)
  | ident (name : String)
  | hash (name : String)
  | metaName (text : String)
  | number (value : Option Binary64)
  | bigint (digits : String)
  | string (value : List StringUnit)
  | regex (source : String)
  | template (parts : List String) (values : List Term)
  -- elements of lists
  | spread (value : Term)
  | hole
  | placed (start : Nat) (inner : Term)
  -- comments
  /-- A statement, member, argument or branch after comments. -/
  | noted (comments : List Comment) (inner : Term)
  /-- Comments after the last statement or argument. -/
  | remarks (comments : List Comment)
  -- expressions
  | tagged (tag : Term) (parts : List String) (values : List Term)
  /-- A list, and the offset of the comma after its last element. -/
  | array (items : List Term) (trailing : Option Nat)
  | object (properties : List Term) (trailing : Option Nat)
  | function (head : FunctionHead) (params body : List Term)
  | arrow (isAsync noEffects : Bool) (params : List Term) (body : Term)
  | classExpr (decorators : List Term) (name : Option NameAt) (parent : Option Term)
      (interfaces : List String) (members : List Term)
  | paren (inner : Term)
  | dot (object : Term) (name : String) (optional : Bool)
  | index (object key : Term) (optional : Bool)
  | call (callee : Term) (args : List Term) (optional pure : Bool)
  | chain (inner : Term)
  | construct (callee : Term) (args : List Term) (pure : Bool)
  | importCall (phase : Option String) (args : List Term)
  | unary (op : String) (arg : Term)
  | update (op : String) (leading : Bool) (arg : Term)
  | binary (op : String) (left right : Term)
  | privateIn (name : String) (right : Term)
  | assign (op : String) (target value : Term)
  | conditional (test yes no : Term)
  | sequence (items : List Term)
  | await (arg : Term)
  | yield (delegate : Bool) (arg : Option Term)
  -- keys and members of objects
  | computed (key : Term)
  | pair (key value : Term)
  | short (name : String) (start : Nat) (default : Option Term)
  | objectMethod (kind : MethodKind) (isAsync isGenerator : Bool) (key : Term)
      (params body : List Term) (paramsStart : Nat)
  -- patterns
  | arrayPattern (assigned : Bool) (items : List Term)
  | objectPattern (assigned : Bool) (fields : List Term)
  | withDefault (inner value : Term)
  | rest (inner : Term)
  -- members of classes
  | method (decorators : List Term) (words : MemberWords) (kind : MethodKind)
      (isAsync isGenerator : Bool) (key : Term) (params body : List Term) (text : MethodText)
  | field (decorators : List Term) (words : MemberWords) (isAccessor : Bool) (key : Term)
      (keyText : String) (value : Option Term)
  | staticBlock (body : List Term)
  -- statements
  | directive (raw : String)
  | empty
  | debugger
  | block (body : List Term)
  | expr (value : Term)
  | var (kind : VarKind) (declarators : List Term)
  | declarator (target : Term) (value : Option Term)
  | cond (test yes : Term) (no : Option Term)
  | loop (start test update : Option Term) (body : Term)
  | each (isAwait isOf : Bool) (target subject body : Term)
  | while (test body : Term)
  | with (subject body : Term)
  | doWhile (body test : Term)
  | switch (subject : Term) (cases : List Term)
  | case (test : Option Term) (body : List Term)
  | try (body : List Term) (handler finalizer : Option Term)
  | handler (param : Option Term) (body : List Term)
  | throw (value : Term)
  | return (value : Option Term)
  | break (label : Option String)
  | continue (label : Option String)
  | labeled (label : String) (body : Term)
  -- statements of modules
  | importFrom (phase : Option String) (names : Option (List ImportName)) (source : ModuleSource)
  | exportNames (names : List ExportName) (source : Option ModuleSource)
  | exportAll (name : Option (ModuleName × Nat)) (source : ModuleSource)
  | exported (declaration : Term)
  | exportDefault (start : Nat) (value : Term)
  deriving Inhabited

namespace Term

/-- Without the parentheses around it and without its place. -/
def bare : Term → Term
  | paren inner => bare inner
  | placed _ inner => bare inner
  | e => e

def unplaced : Term → Term
  | placed _ inner => unplaced inner
  | e => e

def withComments (comments : List Comment) (t : Term) : Term :=
  if comments.isEmpty then t else noted comments t

def splitComments : Term → List Comment × Term
  | noted comments inner => (comments, inner)
  | t => ([], t)

def writtenKey? : Term → Option String
  | ident name => some name
  | string value => (plainText? value).map String.ofList
  | _ => none

end Term

end TemplateWiring.Script
