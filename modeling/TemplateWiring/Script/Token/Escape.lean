import TemplateWiring.Text.Hexadecimal
import TemplateWiring.Script.Unit

namespace TemplateWiring.Script

open Text

def fourDigits? (s : List Char) : Option Nat :=
  if (s.take 4).length = 4 then hexNumber? (s.take 4) else none

/-- The code point after a backslash and `u`: in braces, or in four digits. Two escapes of four
digits may be the halves of a pair. -/
def unicodeEscape? (s : List Char) : Option (StringUnit × Nat) :=
  match s with
  | '{' :: t =>
    let ds := t.takeWhile (· != '}')
    match t.drop ds.length, hexNumber? ds with
    | '}' :: _, some n => if n ≤ 0x10FFFF then some (unitOf n, ds.length + 2) else none
    | _, _ => none
  | _ =>
    (fourDigits? s).bind fun high =>
      match isHighHalf high, s.drop 4 with
      | true, '\\' :: 'u' :: t =>
        (fourDigits? t).map fun low =>
          if isLowHalf low then (.char (joinHalves high low), 10) else (.half high, 4)
      | _, _ => some (unitOf high, 4)

def isDigitOf (base : Nat) (c : Char) : Bool :=
  match hexValue? c with
  | some n => n < base
  | none => false

def digitsValue (base : Nat) (ds : List Char) : Nat :=
  ds.foldl (fun n c => match hexValue? c with
    | some d => n * base + d
    | none => n) 0

def simpleEscape (c : Char) : Char :=
  if c = 'n' then '\n'
  else if c = 't' then '\t'
  else if c = 'r' then '\r'
  else if c = 'b' then Char.ofNat 8
  else if c = 'v' then Char.ofNat 11
  else if c = 'f' then Char.ofNat 12
  else c

/-- The octal digits of an escape: three of them when the first is small, or else two. -/
def octalDigits (s : List Char) : List Char :=
  let most := match s with
    | c :: _ => if c ≤ '3' then 3 else 2
    | [] => 0
  (s.take most).takeWhile (isDigitOf 8)

def byteEscape? (s : List Char) : Option Char :=
  if (s.take 2).length = 2 then (hexNumber? (s.take 2)).map Char.ofNat else none

end TemplateWiring.Script
