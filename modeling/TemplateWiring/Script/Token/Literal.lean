import TemplateWiring.Script.Token.Escape
import TemplateWiring.Script.Token.Gap

namespace TemplateWiring.Script

/-- A string after its opening quote: what it stands for, its text, where it stops, and where its
wrong escapes are. -/
structure Stringed where
  value : List StringUnit
  raw : List Char
  stop : Nat
  rest : List Char
  closed : Bool
  wrong : List Nat

def stringEscape? (s : List Char) : Option (List StringUnit × Nat) :=
  match s with
  | [] => none
  | '\r' :: '\n' :: _ => some ([], 2)
  | 'x' :: t => (byteEscape? t).map fun c => ([.char c], 3)
  | 'u' :: t => (unicodeEscape? t).map fun e => ([e.1], e.2 + 1)
  | c :: _ =>
    if isLineBreak c then some ([], 1)
    else if isDigitOf 8 c then
      let ds := octalDigits s
      some ([.char (Char.ofNat (digitsValue 8 ds))], ds.length)
    else some ([.char (simpleEscape c)], 1)

def takeString (quote : Char) (pos : Nat) (s : List Char) : Stringed :=
  match s with
  | [] => ⟨[], [], pos, [], false, []⟩
  | '\\' :: t =>
    match stringEscape? t with
    | none =>
      let tail := takeString quote (pos + 1) t
      { tail with raw := '\\' :: tail.raw, wrong := pos :: tail.wrong }
    | some (us, k) =>
      let taken := t.take k
      let tail := takeString quote (pos + 1 + Text.byteLength taken) (t.drop k)
      { tail with value := us ++ tail.value, raw := '\\' :: taken ++ tail.raw }
  | c :: t =>
    if c = quote then ⟨[], [], pos + 1, t, true, []⟩
    else if c = '\n' ∨ c = '\r' then ⟨[], [], pos, s, false, []⟩
    else
      let tail := takeString quote (pos + c.utf8Size) t
      { tail with value := .char c :: tail.value, raw := c :: tail.raw }
termination_by s.length
decreasing_by all_goals simp; try omega

/-- Whether an escape in a template, after its backslash, stands for something. Octal ones do
not. -/
def templateEscapeFits (s : List Char) : Bool :=
  match s with
  | 'x' :: t => (byteEscape? t).isSome
  | 'u' :: t => (unicodeEscape? t).isSome
  | '0' :: t => !(t.headD ' ').isDigit
  | c :: _ => !c.isDigit
  | [] => true

structure Piece where
  raw : List Char
  stop : Nat
  rest : List Char
  last : Bool
  closed : Bool
  sound : Bool

def takePiece (pos : Nat) : List Char → Piece
  | [] => ⟨[], pos, [], true, false, true⟩
  | '`' :: s => ⟨[], pos + 1, s, true, true, true⟩
  | '$' :: '{' :: s => ⟨[], pos + 2, s, false, true, true⟩
  | '\\' :: '\r' :: '\n' :: s =>
    let tail := takePiece (pos + 3) s
    { tail with raw := '\\' :: '\n' :: tail.raw }
  | '\\' :: c :: s =>
    let tail := takePiece (pos + 1 + c.utf8Size) s
    { tail with
      raw := '\\' :: (if c = '\r' then '\n' else c) :: tail.raw
      sound := templateEscapeFits (c :: s) && tail.sound }
  | '\r' :: '\n' :: s =>
    let tail := takePiece (pos + 2) s
    { tail with raw := '\n' :: tail.raw }
  | c :: s =>
    let tail := takePiece (pos + c.utf8Size) s
    { tail with raw := (if c = '\r' then '\n' else c) :: tail.raw }

/-- The body of a regular expression. A slash inside brackets is part of it. -/
structure RegexBody where
  raw : List Char
  stop : Nat
  rest : List Char
  closed : Bool

def takeRegex : (inClass : Bool) → (pos : Nat) → List Char → RegexBody
  | _, pos, [] => ⟨[], pos, [], false⟩
  | inClass, pos, '\\' :: c :: s =>
    if isLineBreak c then ⟨[], pos, '\\' :: c :: s, false⟩
    else
      let tail := takeRegex inClass (pos + 1 + c.utf8Size) s
      { tail with raw := '\\' :: c :: tail.raw }
  | inClass, pos, c :: s =>
    if isLineBreak c then ⟨[], pos, c :: s, false⟩
    else if c = '/' ∧ inClass = false then ⟨[], pos + 1, s, true⟩
    else
      let inside := if c = '[' then true else if c = ']' then false else inClass
      let tail := takeRegex inside (pos + c.utf8Size) s
      { tail with raw := c :: tail.raw }

def regexFlags : List Char := ['d', 'g', 'i', 'm', 's', 'u', 'v', 'y']

def isFlagChar (c : Char) : Bool := c.isAlphanum || c == '$' || c == '_'

end TemplateWiring.Script
