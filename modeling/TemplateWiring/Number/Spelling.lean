import TemplateWiring.Number.Binary64

namespace TemplateWiring.Binary64

def zeros (n : Nat) : List Char := List.replicate n '0'

def decimal (n : Nat) : List Char := Nat.toDigits 10 n

def pointed (digits : List Char) (places : Int) : List Char :=
  if places ≤ 0 then '0' :: '.' :: zeros places.natAbs ++ digits
  else
    let n := places.toNat
    if digits.length ≤ n then digits ++ zeros (n - digits.length)
    else digits.take n ++ '.' :: digits.drop n

def scientific (digits : List Char) (places : Int) : List Char :=
  let e := places - 1
  let head := match digits with
    | [] => []
    | [d] => [d]
    | d :: rest => d :: '.' :: rest
  head ++ ['e', if e < 0 then '-' else '+'] ++ decimal e.natAbs

/-- Every place from `1e-5` up to `1e16`, and `.0` after an integer; an exponent outside. -/
def positional (x : Binary64) : List Char :=
  let (digits, power) := x.shortest
  let sign := if x.negative then ['-'] else []
  if digits = 0 then sign ++ ['0', '.', '0']
  else
    let ds := decimal digits
    let places : Int := ds.length + power
    if -5 < places && places ≤ 16 then
      let text := pointed ds places
      sign ++ (if '.' ∈ text then text else text ++ ['.', '0'])
    else sign ++ scientific ds places

/-- Positional between `1e-7` and `1e21`, with an exponent outside. -/
def usual (x : Binary64) : List Char :=
  let (digits, power) := x.shortest
  if digits = 0 then ['0']
  else
    let ds := decimal digits
    let places : Int := ds.length + power
    if -6 < places && places ≤ 21 then pointed ds places else scientific ds places

def hexadecimal (n : Nat) : List Char := ['0', 'x'] ++ Nat.toDigits 16 n

def shorter (candidate best : List Char) : List Char :=
  if candidate.length < best.length then candidate else best

/-- `1.2e101` as `12e100`. -/
def withoutPoint (text : List Char) : List Char :=
  let (whole, rest) := text.span (· != '.')
  let (part, tail) := (rest.drop 1).span (· != 'e')
  match rest, tail with
  | '.' :: _, 'e' :: ex =>
    let value : Int := match ex with
      | '-' :: ds => -(Nat.ofDigitChars 10 ds 0 : Int)
      | ds => (Nat.ofDigitChars 10 ds 0 : Int)
    let moved := value - part.length
    let ex' := (if moved < 0 then ['-'] else []) ++ decimal moved.natAbs
    shorter (whole ++ part ++ 'e' :: ex') text
  | _, _ => text

def withoutZeros (text : List Char) : List Char :=
  let kept := (text.reverse.dropWhile (· == '0')).reverse
  let count := text.length - kept.length
  if count = 0 || kept.isEmpty then text
  else shorter (kept ++ 'e' :: decimal count) text

def withoutLeadingZeros (text : List Char) : List Char :=
  match text with
  | '.' :: '0' :: _ =>
    let digits := (text.drop 1).dropWhile (· == '0')
    let places := text.length - 1
    if digits.isEmpty then text
    else shorter (digits ++ ['e', '-'] ++ decimal places) text
  | _ => text

/-- The fewest characters among the decimal, exponent and hexadecimal forms of a magnitude. -/
def brief (x : Binary64) : List Char :=
  let plain := x.usual
  if x.isInteger && x.floor < 1000 then plain
  else
    let plain := match plain with
      | '0' :: '.' :: rest => '.' :: rest
      | other => other
    let plain := plain.filter (· != '+')
    let hex := hexadecimal x.floor
    if x.isInteger && hex.length < plain.length then hex
    else
      let best := if x.isInteger then plain else withoutLeadingZeros plain
      withoutPoint (withoutZeros best)

end TemplateWiring.Binary64
