import TemplateWiring.Sibling.Name

/-! The names of siblings as patterns, and the part of the language of patterns that these are written
in: characters, word characters, groups, alternatives, repetition and the two ends of a text. -/

namespace TemplateWiring

inductive Pattern where
  | char (c : Char)
  | word
  | start
  | finish
  | empty
  | seq (first second : Pattern)
  | either (left right : Pattern)
  | repeated (part : Pattern)
  deriving DecidableEq, Repr

namespace Pattern

inductive Repeats (fits : List Char → List Char → List Char → Prop) :
    List Char → List Char → List Char → Prop
  | once {before part after : List Char} (fit : fits before part after) :
      Repeats fits before part after
  | more {before part rest after : List Char} (fit : fits before part (rest ++ after))
      (later : Repeats fits (before ++ part) rest after) :
      Repeats fits before (part ++ rest) after

/-- The pattern fits a part of a text, which stands between `before` and `after`. -/
def Fits : Pattern → (before part after : List Char) → Prop
  | char c, _, part, _ => part = [c]
  | word, _, part, _ => ∃ c, Text.isWord c = true ∧ part = [c]
  | start, before, part, _ => before = [] ∧ part = []
  | finish, _, part, after => part = [] ∧ after = []
  | empty, _, part, _ => part = []
  | seq p q, before, part, after => ∃ front back, part = front ++ back ∧
      p.Fits before front (back ++ after) ∧ q.Fits (before ++ front) back after
  | either p q, before, part, after => p.Fits before part after ∨ q.Fits before part after
  | repeated p, before, part, after => Repeats p.Fits before part after

def Found (p : Pattern) (s : String) : Prop :=
  ∃ before part after, s.toList = before ++ part ++ after ∧ p.Fits before part after

/-- Characters that may be written behind a backslash to stand for themselves. -/
def signs : List Char := "\\.+*?()|[]\x7b\x7d^$#&-~".toList

def operators : List Char := "\\.+*?()|[\x7b^$".toList

def escape (s : List Char) : List Char :=
  s.flatMap fun c => if c ∈ signs then ['\\', c] else [c]

def sequence (parts : List Pattern) : Pattern := parts.foldr seq empty

/-- What has been read of a group: its alternatives but the last one, and the parts of that one. -/
structure Draft where
  earlier : List (List Pattern) := []
  parts : List Pattern := []

namespace Draft

def add (d : Draft) (parts : List Pattern) : Draft := { d with parts := d.parts ++ parts }

def next (d : Draft) : Draft := ⟨d.earlier ++ [d.parts], []⟩

def pattern (d : Draft) : Pattern :=
  d.earlier.foldr (fun parts later => either (sequence parts) later) (sequence d.parts)

def repeatLast? (d : Draft) : Option Draft :=
  d.parts.getLast?.map fun last => { d with parts := d.parts.dropLast ++ [repeated last] }

end Draft

/-- What has been read of a pattern: the groups that are open, the innermost apart from those around
it, and whether a backslash was the last character. -/
structure Reading where
  outer : List Draft := []
  group : Draft := {}
  escaped : Bool := false

/-- Reads one character. Operators that the names of siblings do without are refused. -/
def read? (r : Reading) (c : Char) : Option Reading :=
  let extend (parts : List Pattern) : Option Reading := some ⟨r.outer, r.group.add parts, false⟩
  if r.escaped then
    if c = 'w' then extend [word] else if c ∈ signs then extend [char c] else none
  else if c = '\\' then some { r with escaped := true }
  else if c = '^' then extend [start]
  else if c = '$' then extend [finish]
  else if c = '+' then r.group.repeatLast?.map fun group => { r with group }
  else if c = '|' then some { r with group := r.group.next }
  else if c = '(' then some { outer := r.group :: r.outer }
  else if c = ')' then
    match r.outer with
    | [] => none
    | around :: outer => some { outer, group := around.add [r.group.pattern] }
  else if c ∈ operators then none
  else extend [char c]

def Reading.pattern? (r : Reading) : Option Pattern :=
  if r.outer.isEmpty && !r.escaped then some r.group.pattern else none

def ofText? (text : String) : Option Pattern :=
  (text.toList.foldlM read? {}).bind Reading.pattern?

end Pattern

namespace Sibling

def patternText (base : String) (role : Role) : String :=
  let bar := if base = "index" then "|" else ""
  "^(" ++ String.ofList (Pattern.escape base.toList) ++ "\\." ++ bar ++ ")" ++ role.word ++
    "\\.\\w+$"

end Sibling

end TemplateWiring
