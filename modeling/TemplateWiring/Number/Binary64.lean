namespace TemplateWiring

/-- The value `significand * 2 ^ exponent`, negated if so marked. -/
structure Binary64 where
  negative : Bool
  significand : Nat
  exponent : Int
  deriving DecidableEq, Repr

namespace Binary64

def zero : Binary64 := ⟨false, 0, -1074⟩

/-- The quotient rounded to the nearest integer, a half to the even one. -/
def roundQuotient (n d : Nat) : Nat :=
  let floor := n / d
  let twice := 2 * (n % d)
  if twice < d then floor else if d < twice then floor + 1 else floor + floor % 2

def powTwo (n : Nat) : Nat := Nat.pow 2 n

def powTen (n : Nat) : Nat := Nat.pow 10 n

def scaled (n d : Nat) (e : Int) : Nat × Nat :=
  if e < 0 then (n * powTwo e.natAbs, d) else (n, d * powTwo e.natAbs)

/-- The number nearest to `n / d`; none when it is too large to have one. -/
def ofFraction? (n d : Nat) : Option Binary64 :=
  if n = 0 then some zero
  else
    let guess : Int := (n.log2 : Int) - (d.log2 : Int) - 52
    let (a, b) := scaled n d guess
    let exponent := max (if a < b * powTwo 52 then guess - 1 else guess) (-1074)
    let (a, b) := scaled n d exponent
    let m := roundQuotient a b
    let (m, e) := if m = powTwo 53 then (powTwo 52, exponent + 1) else (m, exponent)
    if 971 < e then none else some ⟨false, m, e⟩

/-- The number nearest to `digits * 10 ^ power`. Far from 1 it need not be looked for. -/
def ofDecimal? (digits : Nat) (power : Int) : Option Binary64 :=
  if digits = 0 then some zero
  else if 400 < power then none
  else if power < -(400 + (digits.log2 : Int)) then some zero
  else if power < 0 then ofFraction? digits (powTen power.natAbs)
  else ofFraction? (digits * powTen power.natAbs) 1

def fraction (x : Binary64) : Nat × Nat :=
  if x.exponent < 0 then (x.significand, powTwo x.exponent.natAbs)
  else (x.significand * powTwo x.exponent.natAbs, 1)

def mul? (x y : Binary64) : Option Binary64 :=
  let (a, b) := x.fraction
  let (c, d) := y.fraction
  ofFraction? (a * c) (b * d)

def div? (x y : Binary64) : Option Binary64 :=
  let (a, b) := x.fraction
  let (c, d) := y.fraction
  if c = 0 then none else ofFraction? (a * d) (b * c)

def isInteger (x : Binary64) : Bool :=
  let (n, d) := x.fraction
  n % d == 0

def floor (x : Binary64) : Nat :=
  let (n, d) := x.fraction
  n / d

/-- An integer given by its digits, read with one rounding after each product and each sum. -/
def ofDigits? (base : Nat) (digits : List Nat) : Option Binary64 :=
  let step (acc : Option Binary64) (d : Nat) : Option Binary64 :=
    (acc.bind fun x => ofFraction? (x.floor * base) 1).bind fun x => ofFraction? (x.floor + d) 1
  digits.foldl step (some zero)

/-- Half of the gap to the neighbours below and above, in quarters of the last place. -/
def margins (x : Binary64) : Nat × Nat :=
  if x.significand = powTwo 52 ∧ -1074 < x.exponent then (1, 2) else (2, 2)

def readsBack (x : Binary64) (digits : Nat) (power : Int) : Bool :=
  let (low, high) := x.margins
  let quarters := scaled 1 1 (2 - x.exponent)
  let (a, b) := if power < 0 then (digits, powTen power.natAbs) else (digits * powTen power.natAbs, 1)
  let left := a * quarters.2
  let unit := b * quarters.1
  let m := 4 * x.significand
  if x.significand % 2 = 0 then (m - low) * unit ≤ left && left ≤ (m + high) * unit
  else (m - low) * unit < left && left < (m + high) * unit

def leadingPower (n d : Nat) : Int :=
  if d ≤ n then ((Nat.toDigits 10 (n / d)).length : Int) - 1
  else
    match (List.range 330).find? (fun k => d ≤ n * powTen (k + 1)) with
    | some k => -((k : Int) + 1)
    | none => -330

def distance (n d digits : Nat) (power : Int) : Nat :=
  let (a, b) := if power < 0 then (digits, powTen power.natAbs) else (digits * powTen power.natAbs, 1)
  let x := a * d
  let y := n * b
  (x - y) + (y - x)

/-- The grid of multiples of `10 ^ power`: of its two points around `x`, the nearer that reads
back. -/
def nearestOnGrid (x : Binary64) (power : Int) : Option Nat :=
  let (n, d) := x.fraction
  let low := if power < 0 then n * powTen power.natAbs / d else n / (d * powTen power.natAbs)
  let near := distance n d low power
  let far := distance n d (low + 1) power
  let first := if near < far || (near == far && low % 2 == 0) then [low, low + 1] else [low + 1, low]
  first.find? (fun c => x.readsBack c power)

/-- The fewest digits that read back as `x`, nearest first: `digits * 10 ^ power`. -/
def shortest (x : Binary64) : Nat × Int :=
  if x.significand = 0 then (0, 0)
  else
    let (n, d) := x.fraction
    let lead := leadingPower n d
    let hit := (List.range 17).findSome? fun (k : Nat) =>
      let power := lead - (k : Int)
      (x.nearestOnGrid power).map fun digits => if digits = 10 then (1, power + 1) else (digits, power)
    hit.getD (0, 0)

end Binary64

end TemplateWiring
