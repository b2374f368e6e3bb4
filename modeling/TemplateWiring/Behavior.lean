import TemplateWiring.Script.Program
import TemplateWiring.Script.Render
import TemplateWiring.Text.Blank
import TemplateWiring.Failure

/-! Behavior objects: a component class turned into an object with a method for each of its
methods. Keys, parameters and bodies are taken over as they stand in the class; the constructor
becomes the create hook. The object is then read and rendered as a script of its own. -/

namespace TemplateWiring.Behavior

open Script (Term MethodKind MethodText)

inductive Refusal where
  /-- The text is not a class, at a byte offset when one is known. -/
  | malformed (complaint : String) (offset : Option Nat)
  /-- The class has a parent. -/
  | derived
  | fatal (failure : Failure)
  deriving DecidableEq, Repr

def privateReason : String := "private members cannot be expressed on a plain object"

def ticked (s : String) : String := "`" ++ s ++ "`"

def entryKey (hook : String) (kind : MethodKind) (key : Term) (text : MethodText) : String :=
  match kind, key with
  | .constructor, _ => hook
  | _, .computed _ => "[" ++ text.key ++ "]"
  | _, _ => text.key

def entryParams (text : MethodText) : String :=
  let params := Text.trim text.params.toList
  if params.head? = some '(' then String.ofList params else "(" ++ String.ofList params ++ ")"

def entryLead (kind : MethodKind) (isAsync isGenerator : Bool) : String :=
  match kind with
  | .getter => "get "
  | .setter => "set "
  | .plain | .constructor =>
    (if isAsync then "async " else "") ++ (if isGenerator then "*" else "")

def entry (hook : String) : Term → Except Failure String
  | .method _ _ kind isAsync isGenerator key _ _ text =>
    match key with
    | .hash _ => .error (.unsupportedMember text.key privateReason)
    | key =>
      .ok (entryLead kind isAsync isGenerator ++ entryKey hook kind key text ++ entryParams text ++
        " " ++ text.body)
  | .field _ _ true _ keyText _ => .error (.nonMethodMember ("accessor field " ++ ticked keyText))
  | .field _ _ false _ keyText _ => .error (.nonMethodMember ("field " ++ ticked keyText))
  | .noted _ member => entry hook member
  | _ => .error (.nonMethodMember "static block")

/-- The entries of all members, up to the first member that cannot be one. -/
def entries (hook : String) : List Term → Except Failure (List String)
  | [] => .ok []
  | m :: ms =>
    match entry hook m with
    | .error e => .error e
    | .ok s =>
      match entries hook ms with
      | .error e => .error e
      | .ok ss => .ok (s :: ss)

def objectText : List String → String
  | [] => "\x7b\x7d"
  | ss => "\x7b\n" ++ String.intercalate ",\n" ss ++ "\n\x7d"

/-- The text of one expression without the end of its statement and without parentheses around
it. -/
def unwrap (s : List Char) : List Char :=
  let s := Text.trim (Text.dropTrailing ';' (Text.trim s))
  match (Text.after? ['('] s).bind (Text.before? [')']) with
  | some inner => Text.trim inner
  | none => s

def serialize (object : String) : Except Refusal String :=
  match Script.parse ("(" ++ object ++ ")").toList with
  | .error fault => .error (.malformed fault.complaint.message none)
  | .ok items => .ok (String.ofList (unwrap (Script.render items).toList))

def leadingClass? : List Term → Option (Option Term × List Term)
  | .expr e :: _ =>
    match e.bare with
    | .classExpr _ _ parent _ members => some (parent, members)
    | _ => none
  | _ => none

def ofMembers (hook : String) (parent : Option Term) (members : List Term) :
    Except Refusal String :=
  if parent.isSome then .error .derived
  else
    match entries hook members with
    | .error e => .error (.fatal e)
    | .ok ss => serialize (objectText ss)

/-- The behavior object of a class, given as text. An offset counts from the start of that text,
which is read between parentheses, and does not lie behind its end. -/
def ofClass (source hook : String) : Except Refusal String :=
  match Script.parse ("(" ++ source ++ "\n)").toList with
  | .error fault =>
    .error (.malformed fault.complaint.message (some (min (fault.offset - 1) source.utf8ByteSize)))
  | .ok items =>
    match leadingClass? items with
    | none => .error (.malformed "Expected a class expression" none)
    | some (parent, members) => ofMembers hook parent members

end TemplateWiring.Behavior
