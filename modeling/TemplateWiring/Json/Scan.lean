import TemplateWiring.Json.Numeral
import TemplateWiring.Text.Blank
import TemplateWiring.Text.Hexadecimal

namespace TemplateWiring.Json

def isSpace (c : Char) : Bool := c == ' ' || c == '\n' || c == '\t' || c == '\r'

def skipSpace (s : List Char) : List Char := s.dropWhile isSpace

namespace Scan

/-- Four hexadecimal digits; the text ends too early when four bytes are not there. -/
def hexEscape (s : List Char) : Except Problem (Nat × List Char) :=
  let tooShort := if Text.byteLength (s.take 4) < 4 then Problem.endOfString else .invalidEscape
  match s with
  | a :: b :: c :: d :: rest =>
    match Text.hexNumber? [a, b, c, d] with
    | some n => .ok (n, rest)
    | none => .error tooShort
  | _ => .error tooShort

def isLeading (n : Nat) : Bool := 0xD800 ≤ n && n ≤ 0xDBFF

def isTrailing (n : Nat) : Bool := 0xDC00 ≤ n && n ≤ 0xDFFF

def unicodeEscape (s : List Char) : Except Problem (Char × List Char) := do
  let (n, rest) ← hexEscape s
  if isTrailing n then throw .loneSurrogate
  else if isLeading n then
    match rest with
    | [] => throw .endOfString
    | ['\\'] => throw .endOfString
    | '\\' :: 'u' :: rest =>
      let (m, rest) ← hexEscape rest
      if isTrailing m then
        return (Char.ofNat ((n - 0xD800) * 0x400 + (m - 0xDC00) + 0x10000), rest)
      else throw .loneSurrogate
    | _ => throw .endOfEscape
  else return (Char.ofNat n, rest)

def simpleEscape : Char → Option Char
  | '"' => some '"'
  | '\\' => some '\\'
  | '/' => some '/'
  | 'b' => some (Char.ofNat 8)
  | 'f' => some (Char.ofNat 12)
  | 'n' => some '\n'
  | 'r' => some '\r'
  | 't' => some '\t'
  | _ => none

/-- The text up to the closing quote, and what follows. Every step passes a character. -/
def readString : (fuel : Nat) → List Char → Except Problem (List Char × List Char)
  | 0, _ => .error .endOfString
  | _ + 1, [] => .error .endOfString
  | fuel + 1, c :: s =>
    if c = '"' then .ok ([], s)
    else if c = '\\' then
      match s with
      | [] => .error .endOfString
      | 'u' :: s => do
        let (c, s) ← unicodeEscape s
        let (cs, rest) ← readString fuel s
        return (c :: cs, rest)
      | e :: s =>
        match simpleEscape e with
        | none => .error .invalidEscape
        | some c => do
          let (cs, rest) ← readString fuel s
          return (c :: cs, rest)
    else if c.toNat < 0x20 then .error .controlCharacter
    else do
      let (cs, rest) ← readString fuel s
      return (c :: cs, rest)

def skipString : (fuel : Nat) → List Char → Except Problem (List Char)
  | 0, _ => .error .endOfString
  | _ + 1, [] => .error .endOfString
  | fuel + 1, c :: s =>
    if c = '"' then .ok s
    else if c = '\\' then
      match s with
      | [] => .error .endOfString
      | 'u' :: s => do
        let (_, s) ← hexEscape s
        skipString fuel s
      | e :: s => if (simpleEscape e).isSome then skipString fuel s else .error .invalidEscape
    else if c.toNat < 0x20 then .error .controlCharacter
    else skipString fuel s

/-- A part of a text: what it is, and what follows it, when something can. -/
abbrev Part (α : Type) := α × Option (List Char)

def string {α : Type} (whole : String → α) (unreadable : Problem → α)
    (broken : Problem → Problem → α) (s : List Char) : Part α :=
  match readString (s.length + 1) s with
  | .ok (cs, rest) => (whole (String.ofList cs), some rest)
  | .error p =>
    match skipString (s.length + 1) s with
    | .ok rest => (unreadable p, some rest)
    | .error q => (broken p q, none)

def number (s : List Char) : Part Reading :=
  match Numeral.split s with
  | .ok (parts, rest) => (Numeral.value parts, some rest)
  | .error p => (.broken p .invalidNumber, none)

def word (value : Reading) : (letters s : List Char) → Part Reading
  | [], s => (value, some s)
  | _ :: _, [] => (.broken .endOfValue .endOfValue, none)
  | a :: letters, c :: s =>
    if a = c then word value letters s else (.broken .expectedWord .expectedWord, none)

inductive KeyPart where
  | key (key : Key)
  | stop (stop : Stop)
  deriving DecidableEq, Repr

def stopBoth (p : Problem) : Stop := ⟨p, p, p⟩

def key : List Char → Part KeyPart
  | '"' :: s =>
    string (fun t => .key (.name t)) (fun p => .key (.unreadable p)) (fun p q => .stop ⟨p, q, p⟩) s
  | _ => (.stop (stopBoth .keyNotString), none)

def listEnd : Stop := stopBoth .endOfList

def listNoComma : Stop := ⟨.expectedItemEnd, .expectedItemEnd, .trailingCharacters⟩

def listCommaEnd : Stop := ⟨.endOfValue, .endOfValue, .trailingCharacters⟩

def listLastComma : Stop := ⟨.trailingComma, .expectedValue, .trailingComma⟩

def objectCommaEnd : Stop := ⟨.endOfValue, .endOfObject, .endOfValue⟩

def objectLastComma : Stop := ⟨.trailingComma, .keyNotString, .trailingComma⟩

mutual

/-- The value that a text starts with. Every step of nesting passes a character. -/
def value : (fuel : Nat) → List Char → Part Reading
  | 0, _ => (.broken .endOfValue .endOfValue, none)
  | fuel + 1, s =>
    match skipSpace s with
    | [] => (.broken .endOfValue .endOfValue, none)
    | 'n' :: s => word .null "ull".toList s
    | 't' :: s => word (.bool true) "rue".toList s
    | 'f' :: s => word (.bool false) "alse".toList s
    | '"' :: s => string .str .unreadable .broken s
    | '[' :: s =>
      let ((rs, stop), rest) := items fuel true s
      (.list rs stop, rest)
    | '\x7b' :: s =>
      let ((ms, stop), rest) := members fuel true s
      (.object ms stop, rest)
    | c :: s =>
      if c = '-' ∨ c.isDigit then number (c :: s) else (.broken .expectedValue .expectedValue, none)

def items : (fuel : Nat) → (first : Bool) → List Char → Part (List Reading × Option Stop)
  | 0, _, _ => (([], some listEnd), none)
  | fuel + 1, first, s =>
    match skipSpace s with
    | [] => (([], some listEnd), none)
    | ']' :: s => (([], none), some s)
    | c :: s =>
      if first then item fuel (c :: s)
      else if c = ',' then
        match skipSpace s with
        | [] => (([], some listCommaEnd), none)
        | ']' :: _ => (([], some listLastComma), none)
        | s => item fuel s
      else (([], some listNoComma), none)

def item : (fuel : Nat) → List Char → Part (List Reading × Option Stop)
  | 0, _ => (([], some listEnd), none)
  | fuel + 1, s =>
    match value fuel s with
    | (r, none) => (([r], none), none)
    | (r, some s) =>
      let ((rs, stop), rest) := items fuel false s
      ((r :: rs, stop), rest)

def members : (fuel : Nat) → (first : Bool) → List Char →
    Part (List (Key × Reading) × Option Stop)
  | 0, _, _ => (([], some (stopBoth .endOfObject)), none)
  | fuel + 1, first, s =>
    match skipSpace s with
    | [] => (([], some (stopBoth .endOfObject)), none)
    | '\x7d' :: s => (([], none), some s)
    | c :: s =>
      if first then member fuel (c :: s)
      else if c = ',' then
        match skipSpace s with
        | [] => (([], some objectCommaEnd), none)
        | '\x7d' :: _ => (([], some objectLastComma), none)
        | s => member fuel s
      else (([], some (stopBoth .expectedMemberEnd)), none)

def member : (fuel : Nat) → List Char → Part (List (Key × Reading) × Option Stop)
  | 0, _ => (([], some (stopBoth .endOfObject)), none)
  | fuel + 1, s =>
    match key s with
    | (.stop stop, _) => (([], some stop), none)
    | (.key k, rest) =>
      match skipSpace (rest.getD []) with
      | [] => (([(k, .broken .endOfObject .endOfObject)], none), none)
      | ':' :: s =>
        match value fuel s with
        | (r, none) => (([(k, r)], none), none)
        | (r, some s) =>
          let ((ms, stop), rest) := members fuel false s
          (((k, r) :: ms, stop), rest)
      | _ => (([(k, .broken .expectedColon .expectedColon)], none), none)

end

end Scan

/-- The value that a text holds, and whether something other than white space follows it. -/
def Reading.ofText (text : String) : Reading × Bool :=
  let s := text.toList
  let (r, rest) := Scan.value (3 * s.length + 3) s
  (r, skipSpace (rest.getD []) ≠ [])

end TemplateWiring.Json
