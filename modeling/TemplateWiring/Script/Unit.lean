namespace TemplateWiring.Script

inductive StringUnit where
  | char (c : Char)
  | half (unit : Nat)
  deriving DecidableEq, Repr

def plainText? : List StringUnit → Option (List Char)
  | [] => some []
  | .char c :: us => (plainText? us).map (c :: ·)
  | .half _ :: _ => none

def isHighHalf (n : Nat) : Bool := 0xD800 ≤ n && n ≤ 0xDBFF

def isLowHalf (n : Nat) : Bool := 0xDC00 ≤ n && n ≤ 0xDFFF

def unitOf (n : Nat) : StringUnit :=
  if isHighHalf n || isLowHalf n then .half n else .char (Char.ofNat n)

def joinHalves (high low : Nat) : Char :=
  Char.ofNat (0x10000 + (high - 0xD800) * 1024 + (low - 0xDC00))

end TemplateWiring.Script
