import TemplateWiring.Path
import TemplateWiring.Failure

/-! The files of a machine, held in memory: every entry with the names that lead to it from the root.
A path is read from the root when it starts with a separator and from the working folder when it does
not; two dots lead one folder up, and from the root to the root. Every folder can be read and no entry
is a link. -/

namespace TemplateWiring

inductive EntryKind where
  | file
  | folder
  deriving DecidableEq, Repr

structure Entry where
  route : List (List Char)
  kind : EntryKind
  deriving DecidableEq, Repr

/-- The working folder is at `home`. -/
structure Folder where
  entries : List Entry
  home : List (List Char) := []
  deriving DecidableEq, Repr

namespace Folder

def empty : Folder := ⟨[], []⟩

def kindAt (f : Folder) (route : List (List Char)) : Option EntryKind :=
  if route = [] then some .folder else (f.entries.find? (·.route = route)).map (·.kind)

/-- An entry that is already there stays as it is. -/
def insert (f : Folder) (route : List (List Char)) (kind : EntryKind) : Folder :=
  if (f.kindAt route).isSome then f else { f with entries := f.entries ++ [⟨route, kind⟩] }

def leading (route : List (List Char)) : List (List (List Char)) :=
  (List.range route.length).map route.take

def routeOf (path : List Char) : List (List Char) := (Path.pieces path).filter Path.named

def start (f : Folder) (path : List Char) : List (List Char) :=
  if Path.isRooted path then [] else f.home

/-- Adds the file at a path without double dots, or the folder when the path ends in a separator, and
every folder on the way. -/
def add (f : Folder) (path : List Char) : Folder :=
  let route := f.start path ++ routeOf path
  let kind := if path.getLast? = some '/' then EntryKind.folder else EntryKind.file
  ((leading route).foldl (fun g r => g.insert r .folder) f).insert route kind

/-- No files, and a working folder that is there. -/
def working (home : String) : Folder :=
  { empty.add (home.toList ++ ['/']) with home := routeOf home.toList }

def ofPaths (paths : List String) (home : String := "") : Folder :=
  paths.foldl (fun f p => f.add p.toList) (working home)

inductive Missing where
  | noEntry
  | notFolder
  deriving DecidableEq, Repr

def Missing.message : Missing → String
  | noEntry => "No such file or directory (os error 2)"
  | notFolder => "Not a directory (os error 20)"

def follow (f : Folder) : (route : List (List Char)) → List (List Char) →
    Except Missing (List (List Char))
  | route, [] => .ok route
  | route, p :: ps =>
    match f.kindAt route with
    | none => .error .noEntry
    | some .file => .error .notFolder
    | some .folder =>
      if p = [] ∨ p = ['.'] then follow f route ps
      else if p = ['.', '.'] then follow f route.dropLast ps
      else if (f.kindAt (route ++ [p])).isNone then .error .noEntry
      else follow f (route ++ [p]) ps

def locate (f : Folder) (dir : List Char) : Except Missing (List (List Char)) :=
  if dir = [] then .error .noEntry else follow f (f.start dir) (Path.pieces dir)

def namesIn (f : Folder) (route : List (List Char)) : List String :=
  f.entries.filterMap fun e =>
    match e.route.getLast? with
    | none => none
    | some name => if e.route.dropLast = route then some (String.ofList name) else none

/-- Names in ascending order of their characters, which is that of their bytes. -/
def sorted (names : List String) : List String := names.mergeSort fun a b => !(b < a)

/-- The names of the direct entries of `dir`; a file has none. -/
def list (f : Folder) (dir : String) : Except Failure (List String) :=
  match f.locate dir.toList with
  | .ok route => .ok (sorted (f.namesIn route))
  | .error cause =>
    .error (.directoryRead dir ("IO error for operation on " ++ dir ++ ": " ++ cause.message))

end Folder

end TemplateWiring
