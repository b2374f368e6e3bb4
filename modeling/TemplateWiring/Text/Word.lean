import TemplateWiring.Text.Letters
import TemplateWiring.Text.Marks

/-! Classes of characters that names are made of. Membership is looked up in the range tables
beyond ASCII and read off directly inside it. -/

namespace TemplateWiring.Text

/-- Binary search among sorted closed ranges, `fuel` halvings at most. -/
def searchRanges (table : Array (Nat × Nat)) (n : Nat) : (fuel lo hi : Nat) → Bool
  | 0, _, _ => false
  | fuel + 1, lo, hi =>
    if lo < hi then
      let mid := (lo + hi) / 2
      match table[mid]? with
      | none => false
      | some (a, b) =>
        if n < a then searchRanges table n fuel lo mid
        else if b < n then searchRanges table n fuel (mid + 1) hi
        else true
    else false

def inRanges (table : Array (Nat × Nat)) (c : Char) : Bool :=
  searchRanges table c.toNat (table.size.log2 + 2) 0 table.size

def isAsciiWord (c : Char) : Bool := c.isAlphanum || c == '_'

def isConnector (c : Char) : Bool :=
  let n := c.toNat
  n == 0x203F || n == 0x2040 || n == 0x2054 || n == 0xFE33 || n == 0xFE34 ||
    (0xFE4D ≤ n && n ≤ 0xFE4F) || n == 0xFF3F

def isJoiner (c : Char) : Bool := c.toNat == 0x200C || c.toNat == 0x200D

/-- Circled and squared letters, which are alphabetic without being letters. -/
def isEnclosedLetter (c : Char) : Bool :=
  let n := c.toNat
  (0x24B6 ≤ n && n ≤ 0x24E9) || (0x1F130 ≤ n && n ≤ 0x1F149) ||
    (0x1F150 ≤ n && n ≤ 0x1F169) || (0x1F170 ≤ n && n ≤ 0x1F189)

/-- Word character: alphabetic, mark, decimal digit, connector or joiner. Letters, marks and digits
of the newest edition of Unicode do not count yet. -/
def isWord (c : Char) : Bool :=
  if c.toNat < 128 then isAsciiWord c
  else (inRanges letterRanges c || inRanges joinedMarkRanges c || inRanges spacedMarkRanges c ||
    inRanges digitRanges c || isConnector c || isJoiner c || isEnclosedLetter c) &&
    !(inRanges recentRanges c)

/-- Character that may start an identifier, `$` and `_` included. The vertical tilde is a letter that
belongs to the signs of patterns. -/
def isIdentStart (c : Char) : Bool :=
  let n := c.toNat
  if n < 128 then c.isAlpha || c == '_' || c == '$'
  else (inRanges letterRanges c && n != 0x2E2F) || n == 0x1885 || n == 0x1886 || n == 0x2118 ||
    n == 0x212E || n == 0x309B || n == 0x309C

def isEnclosingMark (c : Char) : Bool :=
  let n := c.toNat
  n == 0x488 || n == 0x489 || n == 0x1ABE || (0x20DD ≤ n && n ≤ 0x20E0) ||
    (0x20E2 ≤ n && n ≤ 0x20E4) || (0xA670 ≤ n && n ≤ 0xA672)

def isIdentPart (c : Char) : Bool :=
  let n := c.toNat
  if n < 128 then isAsciiWord c || c == '$'
  else isIdentStart c || (inRanges joinedMarkRanges c && !isEnclosingMark c) ||
    inRanges spacedMarkRanges c || inRanges digitRanges c || isConnector c || isJoiner c ||
    n == 0xB7 || n == 0x387 || (0x1369 ≤ n && n ≤ 0x1371) || n == 0x19DA || n == 0x30FB ||
    n == 0xFF65

def isExtending (c : Char) : Bool := inRanges joinedMarkRanges c || inRanges extendingMarkRanges c

def isFiller (c : Char) : Bool :=
  let n := c.toNat
  n == 0x115F || n == 0x1160 || n == 0x3164 || n == 0xFFA0

def isVisible (c : Char) : Bool :=
  if c.toNat < 127 then 32 ≤ c.toNat
  else !(inRanges unseenRanges c) && !(isExtending c) && !(isFiller c)

end TemplateWiring.Text
