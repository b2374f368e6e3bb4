import TemplateWiring.Text.Blank

namespace TemplateWiring.Path

open Text

def pieces : List Char → List (List Char)
  | [] => [[]]
  | c :: s =>
    if c = '/' then [] :: pieces s
    else
      match pieces s with
      | [] => [[c]]
      | p :: ps => (c :: p) :: ps

def join : List (List Char) → List Char
  | [] => []
  | [p] => p
  | p :: ps => p ++ '/' :: join ps

def isRooted : List Char → Bool
  | '/' :: _ => true
  | _ => false

/-- An empty piece or a dot after the first piece names nothing. -/
def named (p : List Char) : Bool := p ≠ [] && p ≠ ['.']

def trimPieces : List (List Char) → List (List Char)
  | [] => []
  | p :: ps =>
    match trimPieces ps with
    | [] => if named p then [p] else []
    | qs => p :: qs

/-- As `trimPieces`, but a dot that starts the path stays. -/
def solid : List (List Char) → List (List Char)
  | [] => []
  | p :: ps =>
    match trimPieces ps with
    | [] => if p = [] then [] else [p]
    | qs => p :: qs

/-- The last piece, unless it is a dot or two. -/
def fileName? (path : List Char) : Option (List Char) :=
  match (solid (pieces path)).getLast? with
  | none => none
  | some p => if p = ['.'] ∨ p = ['.', '.'] then none else some p

/-- The text before the last piece; none for the root and for the empty path. -/
def parent? (path : List Char) : Option (List Char) :=
  match solid (pieces path) with
  | [] => none
  | ps =>
    match solid ps.dropLast with
    | [] => some (if isRooted path then ['/'] else [])
    | qs => some (join qs)

/-- The folder that holds the path, the current one when the path does not say. -/
def folder (path : List Char) : List Char :=
  match parent? path with
  | none => ['.']
  | some p => if p = [] then ['.'] else p

def inside (dir name : List Char) : List Char :=
  if dir = [] then name
  else if dir.getLast? = some '/' then dir ++ name
  else dir ++ '/' :: name

/-- A file name's stem and extension. A dot in first place starts no extension. -/
def splitExtension (name : List Char) : List Char × Option (List Char) :=
  match splitLast? '.' name with
  | none => (name, none)
  | some (stem, ext) => if stem = [] then (name, none) else (stem, some ext)

end TemplateWiring.Path
