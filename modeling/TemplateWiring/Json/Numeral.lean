import TemplateWiring.Json.Reading

/-! Numerals. One without point and exponent is an integer while 64 bits hold it; any other is
rounded to a binary floating-point number, digits that do not fit into 64 bits being dropped. -/

namespace TemplateWiring.Json.Numeral

structure Parts where
  negative : Bool
  whole : List Char
  fraction : Option (List Char)
  exponent : Option (Bool × List Char)
  deriving DecidableEq, Repr

def digitValue (c : Char) : Nat := c.toNat - '0'.toNat

def digits (s : List Char) : List Char × List Char := s.span Char.isDigit

/-- What is wrong where a digit is missing: for a reader the text may have ended too early. -/
def noDigit (rest : List Char) : Problem :=
  if rest = [] then .endOfValue else .invalidNumber

def splitExponent (s : List Char) : Except Problem (Option (Bool × List Char) × List Char) :=
  match s with
  | [] => .ok (none, [])
  | c :: rest =>
    if c = 'e' ∨ c = 'E' then
      let (negative, rest) := match rest with
        | '-' :: rest => (true, rest)
        | '+' :: rest => (false, rest)
        | rest => (false, rest)
      let (ds, rest) := digits rest
      if ds = [] then .error (noDigit rest) else .ok (some (negative, ds), rest)
    else .ok (none, s)

def splitFraction (s : List Char) : Except Problem (Option (List Char) × List Char) :=
  match s with
  | '.' :: rest =>
    let (ds, rest) := digits rest
    if ds = [] then .error (noDigit rest) else .ok (some ds, rest)
  | s => .ok (none, s)

def splitWhole (s : List Char) : Except Problem (List Char × List Char) :=
  match s with
  | '0' :: rest =>
    match rest with
    | c :: _ => if c.isDigit then .error .invalidNumber else .ok (['0'], rest)
    | [] => .ok (['0'], [])
  | s =>
    let (ds, rest) := digits s
    if ds = [] then .error (noDigit rest) else .ok (ds, rest)

def split (s : List Char) : Except Problem (Parts × List Char) := do
  let (negative, s) := match s with
    | '-' :: s => (true, s)
    | s => (false, s)
  let (whole, s) ← splitWhole s
  let (fraction, s) ← splitFraction s
  let (exponent, s) ← splitExponent s
  return (⟨negative, whole, fraction, exponent⟩, s)

def limit : Nat := 18446744073709551616

/-- Takes digits into the significand while it stays below the limit: the significand, the number
of digits taken, and the digits left. -/
def fill (significand taken : Nat) : List Char → Nat × Nat × List Char
  | [] => (significand, taken, [])
  | c :: ds =>
    let next := significand * 10 + digitValue c
    if next < limit then fill next (taken + 1) ds else (significand, taken, c :: ds)

def natural (ds : List Char) : Nat := ds.foldl (fun n c => n * 10 + digitValue c) 0

def exponentValue : Option (Bool × List Char) → Int
  | none => 0
  | some (true, ds) => -(natural ds : Int)
  | some (false, ds) => natural ds

/-- `x * 10 ^ power`, one power of ten that has a number at a time; none when it is too large. -/
def scale (x : Binary64) (power : Int) : (steps : Nat) → Option Binary64
  | 0 => some x
  | steps + 1 =>
    if x.significand = 0 then some x
    else if power.natAbs ≤ 308 then
      match Binary64.ofDecimal? 1 power.natAbs with
      | none => none
      | some ten => if 0 ≤ power then x.mul? ten else x.div? ten
    else if 0 ≤ power then none
    else
      match (Binary64.ofDecimal? 1 308).bind x.div? with
      | none => none
      | some y => scale y (power + 308) steps

def real (p : Parts) : Option Binary64 :=
  let (significand, _, left) := fill 0 0 p.whole
  let (significand, taken, _) := fill significand 0 (p.fraction.getD [])
  let power := (left.length : Int) - taken + exponentValue p.exponent
  ((Binary64.ofDecimal? significand 0).bind (scale · power 4)).map fun x =>
    { x with negative := p.negative }

/-- The value as an integer, when it is one that 64 bits hold. A zero with a sign is none. -/
def integer? (p : Parts) : Option Int :=
  if p.fraction.isSome || p.exponent.isSome then none
  else
    let n := natural p.whole
    if p.negative then if 0 < n ∧ 2 * n ≤ limit then some (-(n : Int)) else none
    else if n < limit then some n else none

def value (p : Parts) : Reading :=
  match integer? p with
  | some n => .int n
  | none =>
    match real p with
    | some x => .real x
    | none => .unreadable .numberOutOfRange

end TemplateWiring.Json.Numeral
