import TemplateWiring.Text.Word
import TemplateWiring.Script.Unit

namespace TemplateWiring.Script

def hexPair (n : Nat) : List Char :=
  let ds := (Nat.toDigits 16 n).map Char.toUpper
  if ds.length < 2 then '0' :: ds else ds

def isDigitUnit : StringUnit → Bool
  | .char c => c.isDigit
  | .half _ => false

def stringChar (c : Char) (next : Option StringUnit) : List Char :=
  let n := c.toNat
  if n = 0 then if next.any isDigitUnit then ['\\', 'x', '0', '0'] else ['\\', '0']
  else if n = 7 ∨ n = 0x1B then ['\\', 'x'] ++ hexPair n
  else if n = 8 then ['\\', 'b']
  else if n = 10 then ['\\', 'n']
  else if n = 11 then ['\\', 'v']
  else if n = 12 then ['\\', 'f']
  else if n = 13 then ['\\', 'r']
  else if c = '"' then ['\\', '"']
  else if c = '\\' then ['\\', '\\']
  else if n = 0xA0 then ['\\', 'x', 'A', '0']
  else if n = 0x2028 then "\\u2028".toList
  else if n = 0x2029 then "\\u2029".toList
  else [c]

def stringChars : List StringUnit → List Char
  | [] => []
  | .char c :: s => stringChar c s.head? ++ stringChars s
  | .half n :: s => '\\' :: 'u' :: Nat.toDigits 16 n ++ stringChars s

/-- Separates the slash of a closing script tag from its angle. -/
def guardTags : List Char → List Char
  | [] => []
  | '<' :: '/' :: s =>
    if (s.take 6).map Char.toLower = "script".toList then '<' :: '\\' :: '/' :: guardTags s
    else '<' :: guardTags ('/' :: s)
  | c :: s => c :: guardTags s
termination_by s => s.length

def guarded (s : String) : String := String.ofList (guardTags s.toList)

def quoted (value : List StringUnit) : String :=
  String.ofList ('"' :: guardTags (stringChars value) ++ ['"'])

/-- The first quote that no backslash stands before. -/
def firstQuote? : List Char → Option Char
  | [] => none
  | '\\' :: _ :: s => firstQuote? s
  | c :: s => if c = '"' ∨ c = '\'' then some c else firstQuote? s

/-- A directive keeps its text; only the quotes around it are chosen, single ones where the first
quote inside is double. -/
def quotedDirective (raw : String) : String :=
  let q := if firstQuote? raw.toList = some '"' then "'" else "\""
  q ++ raw ++ q

end TemplateWiring.Script
