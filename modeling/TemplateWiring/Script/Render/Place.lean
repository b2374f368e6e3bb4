namespace TemplateWiring.Script

inductive Lead where
  | nothing
  | statement
  | arrowBody
  | defaultExport
  deriving DecidableEq, Repr

/-- Where an expression stands: the indentation of its line, the tightness of what is around it,
what it starts, whether `in` and calls need parentheses, and whether a function does because it was
written in them. A statement has an indentation and hands on what its expressions need. -/
structure Place where
  indent : Nat
  level : Nat := 0
  lead : Lead := .nothing
  noIn : Bool := false
  noCall : Bool := false
  kept : Bool := false
  deriving DecidableEq, Repr

namespace Level

def lowest : Nat := 0
def comma : Nat := 1
def yields : Nat := 3
def assign : Nat := 4
def conditional : Nat := 5
def equality : Nat := 12
def comparison : Nat := 13
def power : Nat := 17
def unary : Nat := 18
def trailing : Nat := 19
def construct : Nat := 20
def call : Nat := 21

def binary (op : String) : Nat :=
  match op with
  | "??" => 6
  | "||" => 7
  | "&&" => 8
  | "|" => 9
  | "^" => 10
  | "&" => 11
  | "==" | "!=" | "===" | "!==" => equality
  | "<" | ">" | "<=" | ">=" | "in" | "instanceof" => comparison
  | "<<" | ">>" | ">>>" => 14
  | "+" | "-" => 15
  | "*" | "/" | "%" => 16
  | _ => power

end Level

namespace Place

def operand (p : Place) (level : Nat) : Place :=
  { indent := p.indent, level := level, noIn := p.noIn, noCall := p.noCall }

def first (p : Place) (level : Nat) : Place := { p with level := level, kept := false }

def inside (p : Place) (level : Nat) : Place := { indent := p.indent, level := level }

def within (p : Place) (parens : Bool) : Place :=
  if parens then { p with lead := .nothing, kept := false } else p

/-- Inside parentheses, `in` needs none of its own. -/
def withIn (p : Place) (parens : Bool) : Place := if parens then { p with noIn := false } else p

def withCalls (p : Place) : Place := { p with noCall := false }

def deeper (p : Place) : Place := { p with indent := p.indent + 1 }

def argument (p : Place) (onLine : Bool) : Place :=
  (if onLine then p.deeper else p).inside Level.comma

/-- Whether a function or a class here would be taken for a declaration. -/
def declares (p : Place) : Bool := p.lead == .statement || p.lead == .defaultExport

/-- Whether a brace here would be taken for that of a block. -/
def blocks (p : Place) : Bool := p.lead == .statement || p.lead == .arrowBody

end Place

end TemplateWiring.Script
