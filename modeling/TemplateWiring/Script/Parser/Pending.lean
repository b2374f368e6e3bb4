/-! Offsets that wait for a decision, kept in a hash table. Of those still there at the end the one
in the first slot is reported, so the slots matter: an offset takes the first free one from where its
hash points, and the table doubles when more than seven of eight slots would be taken. -/

namespace TemplateWiring.Script

/-- Slots for offsets; their number is a power of two, or zero at first. -/
structure Pending where
  slots : List (Option Nat) := []
  deriving DecidableEq, Repr

namespace Pending

def wordSize : Nat := 18446744073709551616

/-- A multiple of the number, as a word turned left by 26 of its 64 bits. -/
def hash (n : Nat) : Nat :=
  let product := n * 17380933483125451205 % wordSize
  product * 67108864 % wordSize + product / 274877906944

def taken (slots : List (Option Nat)) : Nat := slots.countP Option.isSome

def capacity (size : Nat) : Nat := if size ≤ 8 then size - 1 else size / 8 * 7

def fill (n : Nat) : List (Option Nat) → Option (List (Option Nat))
  | [] => none
  | none :: slots => some (some n :: slots)
  | some m :: slots => (fill n slots).map (some m :: ·)

/-- Puts an offset into the first free slot from where its hash points, going round. -/
def place (slots : List (Option Nat)) (n : Nat) : List (Option Nat) :=
  let i := hash n % slots.length
  match fill n (slots.drop i) with
  | some later => slots.take i ++ later
  | none => (fill n (slots.take i)).getD (slots.take i) ++ slots.drop i

def grow (slots : List (Option Nat)) : List (Option Nat) :=
  let size := if slots.length = 0 then 4 else 2 * slots.length
  (slots.filterMap id).foldl place (List.replicate size none)

def insert (p : Pending) (n : Nat) : Pending :=
  if p.slots.contains (some n) then p
  else if taken p.slots < capacity p.slots.length then ⟨place p.slots n⟩
  else ⟨place (grow p.slots) n⟩

def erase (p : Pending) (n : Nat) : Pending :=
  ⟨p.slots.map fun s => if s = some n then none else s⟩

def toList (p : Pending) : List Nat := p.slots.filterMap id

end Pending

end TemplateWiring.Script
