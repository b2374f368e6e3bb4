import TemplateWiring.Json
import TemplateWiring.Json.Problem
import TemplateWiring.Number.Spelling
import TemplateWiring.Text.Quoted

/-! A text as far as it can be read: a value whose parts may hold a fault. A part that nobody asks
for is passed over, and is checked less strictly; so a fault says what it is to a reader who wants
the value, and what to one who passes over it. -/

namespace TemplateWiring.Json

/-- What stops a list or an object before its end: for a reader, for one who passes over it, and
for one who has all the items that he wants and looks for the end. -/
structure Stop where
  read : Problem
  skip : Problem
  close : Problem
  deriving DecidableEq, Repr

inductive Key where
  | name (name : String)
  | unreadable (problem : Problem)
  deriving DecidableEq, Repr

inductive Reading where
  | null
  | bool (value : Bool)
  | int (value : Int)
  | real (value : Binary64)
  | str (value : String)
  | list (items : List Reading) (stop : Option Stop)
  | object (members : List (Key × Reading)) (stop : Option Stop)
  /-- In good form, but without a value. -/
  | unreadable (problem : Problem)
  /-- The text ends here, or goes on as no value does. -/
  | broken (read skip : Problem)
  deriving Repr, Inhabited

namespace Key

def read : Key → Except Problem String
  | name s => .ok s
  | unreadable p => .error p

end Key

def failing : Option Problem → Except Problem Unit
  | none => .ok ()
  | some p => .error p

namespace Stop

def atEnd (stop : Option Stop) : Except Problem Unit := failing (stop.map (·.read))

def atClose (stop : Option Stop) : Except Problem Unit := failing (stop.map (·.close))

end Stop

namespace Reading

def found : Reading → Except Problem String
  | null => .ok "null"
  | bool b => .ok ("boolean " ++ Problem.ticked (if b then "true" else "false"))
  | int n => .ok ("integer " ++ Problem.ticked (toString n))
  | real x => .ok ("floating point " ++ Problem.ticked (String.ofList x.positional))
  | str s => .ok ("string " ++ Text.quote s)
  | list .. => .ok "sequence"
  | object .. => .ok "map"
  | unreadable p => .error p
  | broken p _ => .error p

mutual

def skipProblem? : Reading → Option Problem
  | list items stop => (skipItems? items).or (stop.map (·.skip))
  | object members stop => (skipMembers? members).or (stop.map (·.skip))
  | broken _ p => some p
  | _ => none

def skipItems? : List Reading → Option Problem
  | [] => none
  | r :: rs => (skipProblem? r).or (skipItems? rs)

def skipMembers? : List (Key × Reading) → Option Problem
  | [] => none
  | (_, r) :: ms => (skipProblem? r).or (skipMembers? ms)

end

mutual

/-- The first problem for one who reads the whole value, which may have `room` collections within
each other. -/
def problem? (room : Nat) : Reading → Option Problem
  | list items stop =>
    match room with
    | 0 => some .tooDeep
    | room + 1 => (itemsProblem? room items).or (stop.map (·.read))
  | object members stop =>
    match room with
    | 0 => some .tooDeep
    | room + 1 => (membersProblem? room members).or (stop.map (·.read))
  | unreadable p => some p
  | broken p _ => some p
  | _ => none

def itemsProblem? (room : Nat) : List Reading → Option Problem
  | [] => none
  | r :: rs => (problem? room r).or (itemsProblem? room rs)

def membersProblem? (room : Nat) : List (Key × Reading) → Option Problem
  | [] => none
  | (.unreadable p, _) :: _ => some p
  | (.name _, r) :: ms => (problem? room r).or (membersProblem? room ms)

end

mutual

def depth : Reading → Nat
  | list items _ => depthOfItems items + 1
  | object members _ => depthOfMembers members + 1
  | _ => 0

def depthOfItems : List Reading → Nat
  | [] => 0
  | r :: rs => max (depth r) (depthOfItems rs)

def depthOfMembers : List (Key × Reading) → Nat
  | [] => 0
  | (_, r) :: ms => max (depth r) (depthOfMembers ms)

end

mutual

def ofJson : Json → Reading
  | .null => null
  | .bool b => bool b
  | .int n => int n
  | .str s => str s
  | .arr items => list (ofItems items) none
  | .obj members => object (ofMembers members) none

def ofItems : List Json → List Reading
  | [] => []
  | v :: vs => ofJson v :: ofItems vs

def ofMembers : List (String × Json) → List (Key × Reading)
  | [] => []
  | (key, v) :: ms => (.name key, ofJson v) :: ofMembers ms

end

end Reading

end TemplateWiring.Json
