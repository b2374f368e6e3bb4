import TemplateWiring.Text.Word
import TemplateWiring.Number.Binary64
import TemplateWiring.Script.Token
import TemplateWiring.Script.Token.Escape

/-! Number literals. A low line may stand between digits. What is wrong with a literal is found
where it stops to be one; some mistakes leave a number behind and others leave none. -/

namespace TemplateWiring.Script

open Text

/-- A number literal, with its length, what follows it, and what is wrong with it. Offsets count
from its start. -/
structure Numbered where
  lexeme : Lexeme
  size : Nat
  rest : List Char
  faults : List Fault

/-- Digits, their number of characters, what follows, and the offset after a low line that no digit
follows. -/
structure Digits where
  digits : List Char
  size : Nat
  rest : List Char
  broken : Bool

def takeDigits (base : Nat) : List Char → Digits
  | [] => ⟨[], 0, [], false⟩
  | ['_'] => ⟨[], 1, [], true⟩
  | '_' :: c :: s =>
    if isDigitOf base c then
      let tail := takeDigits base s
      { tail with digits := c :: tail.digits, size := tail.size + 2 }
    else ⟨[], 1, c :: s, true⟩
  | c :: s =>
    if isDigitOf base c then
      let tail := takeDigits base s
      { tail with digits := c :: tail.digits, size := tail.size + 1 }
    else ⟨[], 0, c :: s, false⟩

def needDigits (base : Nat) (s : List Char) : Digits :=
  match s with
  | c :: _ => if isDigitOf base c then takeDigits base s else ⟨[], 0, s, true⟩
  | [] => ⟨[], 0, [], true⟩

namespace Digits

def faults (d : Digits) (start : Nat) : List Fault :=
  if d.broken then [⟨.invalidCharacter (d.rest.headD '\n'), start + d.size⟩] else []

end Digits

/-- Nothing that could go on a number may follow one. -/
def runsOn (s : List Char) : Bool :=
  match s with
  | [] => false
  | c :: _ => isIdentStart c || c.isDigit

def dropRun (pos : Nat) : List Char → Nat × List Char
  | [] => (pos, [])
  | c :: s => if isIdentStart c then dropRun (pos + c.utf8Size) s else (pos, c :: s)

def numbered (lexeme : Lexeme) (size : Nat) (rest : List Char) (faults : List Fault) : Numbered :=
  if runsOn rest then
    let first := (rest.headD '0').utf8Size
    let (stop, rest) := dropRun (size + first) (rest.drop 1)
    ⟨.unknown, stop, rest, faults ++ [⟨.invalidNumberEnd, size⟩]⟩
  else ⟨lexeme, size, rest, faults⟩

structure Exponent where
  value : Int
  size : Nat
  rest : List Char
  faults : List Fault

def exponentAt (start : Nat) (s : List Char) : Exponent :=
  let (negative, lead, t) := match s with
    | '-' :: t => (true, 1, t)
    | '+' :: t => (false, 1, t)
    | _ => (false, 0, s)
  let ds := needDigits 10 t
  let n : Int := digitsValue 10 ds.digits
  ⟨if negative then -n else n, lead + ds.size, ds.rest, ds.faults (start + lead)⟩

def exponent? (start : Nat) (s : List Char) : Option Exponent :=
  match s with
  | 'e' :: t | 'E' :: t =>
    let e := exponentAt (start + 1) t
    some { e with size := e.size + 1 }
  | _ => none

def decimalValue (whole part : List Char) (power : Int) : Option Binary64 :=
  Binary64.ofDecimal? (digitsValue 10 (whole ++ part)) (power - part.length)

def afterPoint (whole : List Char) (size : Nat) (s : List Char) (faults : List Fault)
    (needed : Bool) : Numbered :=
  let part := if needed then needDigits 10 s
    else match s with
      | '_' :: _ => ⟨[], 0, s, false⟩
      | _ => takeDigits 10 s
  let size := size + 1
  let faults := faults ++ part.faults size
  let size := size + part.size
  match exponent? size part.rest with
  | some e =>
    numbered (.number (decimalValue whole part.digits e.value) "float") (size + e.size) e.rest
      (faults ++ e.faults)
  | none =>
    numbered (.number (decimalValue whole part.digits 0) "float") size part.rest faults

/-- An integer of base ten. One of many digits is read digit by digit, with what precision is
left. -/
def integerValue (base most : Nat) (ds : List Char) : Option Binary64 :=
  if ds.length ≤ most then Binary64.ofFraction? (digitsValue base ds) 1
  else Binary64.ofDigits? base (ds.filterMap hexValue?)

def afterWhole (whole : Digits) : Numbered :=
  let faults := whole.faults 0
  match whole.rest with
  | '.' :: s => afterPoint whole.digits whole.size s faults false
  | 'n' :: s =>
    numbered (.bigint (toString (digitsValue 10 whole.digits)) "decimal") (whole.size + 1) s faults
  | s =>
    match exponent? whole.size s with
    | some e =>
      numbered (.number (decimalValue whole.digits [] e.value) "float") (whole.size + e.size)
        e.rest (faults ++ e.faults)
    | none =>
      numbered (.number (integerValue 10 19 whole.digits) "decimal") whole.size s faults

def takeBased (base most : Nat) (form : String) (s : List Char) : Numbered :=
  let ds := needDigits base s
  if ds.broken then ⟨.unknown, 2 + ds.size, ds.rest, ds.faults 2⟩
  else
    match ds.rest with
    | 'n' :: rest =>
      numbered (.bigint (toString (digitsValue base ds.digits)) form) (3 + ds.size) rest []
    | rest => numbered (.number (integerValue base most ds.digits) form) (2 + ds.size) rest []

/-- A number with a zero before its first digit: octal, unless one of the digits is too large. -/
def takeLegacy (s : List Char) : Numbered :=
  let ds := s.takeWhile Char.isDigit
  let rest := s.drop ds.length
  let size := ds.length
  if ds.all (isDigitOf 8) then numbered (.number (integerValue 8 21 ds) "octal") size rest []
  else
    match rest with
    | '.' :: t => afterPoint ds size t [] false
    | 'e' :: t =>
      let e := exponentAt (size + 1) t
      ⟨.number (decimalValue ds [] e.value) "float", size + 1 + e.size, e.rest, e.faults⟩
    | _ => numbered (.number (integerValue 10 19 ds) "decimal") size rest []

def takeNumber (s : List Char) : Numbered :=
  match s with
  | '.' :: t => afterPoint [] 0 t [] true
  | '0' :: c :: t =>
    if c = 'x' ∨ c = 'X' then takeBased 16 16 "hex" t
    else if c = 'o' ∨ c = 'O' then takeBased 8 21 "octal" t
    else if c = 'b' ∨ c = 'B' then takeBased 2 64 "binary" t
    else if c = 'e' ∨ c = 'E' then
      let e := exponentAt 2 t
      ⟨.number (some Binary64.zero) "float", 2 + e.size, e.rest, e.faults⟩
    else if c.isDigit then takeLegacy s
    else if c = '_' then numbered (.number (some Binary64.zero) "decimal") 1 (c :: t) []
    else afterWhole ⟨['0'], 1, c :: t, false⟩
  | _ => afterWhole (takeDigits 10 s)

def startsNumber (s : List Char) : Bool :=
  match s with
  | [] => false
  | c :: t => c.isDigit || (c == '.' && (t.headD ' ').isDigit)

end TemplateWiring.Script
