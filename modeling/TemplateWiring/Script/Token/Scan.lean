import TemplateWiring.Script.Token.Gap
import TemplateWiring.Script.Token.Literal
import TemplateWiring.Script.Token.Name
import TemplateWiring.Script.Token.Number

/-! Reading tokens from a text. A slash is read as a sign, an angle alone, and a closing brace ends
no template; where the grammar wants a regular expression, a longer sign or the rest of a template,
the token is read again. -/

namespace TemplateWiring.Script

open Text

/-- A token, the text from it on, the text after it, and what was wrong in or before it. -/
structure Scanned where
  token : Token
  here : List Char
  rest : List Char
  faults : List Fault
  firstComment : Option (Nat × Bool)
  deriving Repr

/-- Signs, a longer one before the shorter ones it starts with. -/
def signs : List String :=
  ["...", "===", "!==", "**=", "<<=", "&&=", "||=", "??=", "=>", "==", "!=", "<=", "&&", "||",
    "??", "?.", "++", "--", "+=", "-=", "*=", "/=", "%=", "&=", "|=", "^=", "<<", "**", "\x7b",
    "\x7d", "(", ")", "[", "]", ";", ",", "<", ">", "+", "-", "*", "/", "%", "&", "|", "^", "!",
    "~", "?", ":", "=", ".", "@"]

def angleSigns : List String := [">>>=", ">>=", ">>>", ">=", ">>", ">"]

/-- The first of some signs that the text starts with. A question mark and a dot before a digit are
two. -/
def takeSign? (signs : List String) (s : List Char) : Option (String × List Char) :=
  let fits (sign : String) : Option (String × List Char) :=
    match after? sign.toList s with
    | none => none
    | some rest =>
      match rest with
      | d :: _ => if sign = "?." ∧ d.isDigit then none else some (sign, rest)
      | [] => some (sign, rest)
  signs.findSome? fits

structure Taken where
  lexeme : Lexeme
  stop : Nat
  rest : List Char
  faults : List Fault

def takeWord (start : Nat) (s : List Char) : Taken :=
  let n := takeName true start s
  ⟨.word (String.ofList n.name) n.escaped, n.stop, n.rest, n.faults⟩

def takeSign (start : Nat) (s : List Char) : Taken :=
  match takeSign? signs s with
  | some (sign, rest) => ⟨.sign sign, start + sign.length, rest, []⟩
  | none =>
    let c := s.headD ' '
    ⟨.unknown, start + c.utf8Size, s.tail, [⟨.invalidCharacter c, start⟩]⟩

def takeHash (start : Nat) (s : List Char) : Taken :=
  if startsName s.tail then
    let n := takeName true (start + 1) s.tail
    ⟨.hash (String.ofList n.name), n.stop, n.rest, n.faults⟩
  else ⟨.unknown, start + 1, s.tail, [⟨.invalidCharacter (s.tail.headD '\n'), start + 1⟩]⟩

def takeQuoted (quote : Char) (start : Nat) (s : List Char) : Taken :=
  let str := takeString quote (start + 1) s.tail
  let wrong := str.wrong.map fun offset => Fault.mk .invalidEscape offset
  if str.closed then ⟨.string str.value (String.ofList str.raw), str.stop, str.rest, wrong⟩
  else ⟨.unknown, str.stop, str.rest, wrong ++ [⟨.unterminatedString, start⟩]⟩

def takeTemplate (start : Nat) (s : List Char) : Taken :=
  let piece := takePiece (start + 1) s.tail
  if piece.closed then
    ⟨.template (String.ofList piece.raw) piece.last piece.sound, piece.stop, piece.rest, []⟩
  else ⟨.unknown, piece.stop, piece.rest, [⟨.unterminatedString, start⟩]⟩

def takeNumeral (start : Nat) (s : List Char) : Taken :=
  let n := takeNumber s
  ⟨n.lexeme, start + n.size, n.rest, n.faults.map fun f => { f with offset := start + f.offset }⟩

def take (start : Nat) (s : List Char) : Taken :=
  match s with
  | [] => ⟨.finish, start, [], []⟩
  | c :: _ =>
    if startsName s then takeWord start s
    else if c = '#' then takeHash start s
    else if c = '"' ∨ c = '\'' then takeQuoted c start s
    else if c = '`' then takeTemplate start s
    else if startsNumber s then takeNumeral start s
    else takeSign start s

/-- The next token at or after a position; `expectsMore` tells whether the one before does. -/
def scan (gap : Gap) (expectsMore : Bool) (pos : Nat) (s : List Char) : Scanned :=
  let p := pass expectsMore .between gap pos s
  let g := p.gap
  match p.openComment with
  | some opening =>
    { token := ⟨.finish, opening, p.pos, g.newline, g.written, g.pure, g.noEffects⟩
      here := [], rest := [], faults := [⟨.unterminatedComment, opening⟩], firstComment := g.first }
  | none =>
    let t := take p.pos p.rest
    { token := ⟨t.lexeme, p.pos, t.stop, g.newline, g.written, g.pure, g.noEffects⟩
      here := p.rest, rest := t.rest, faults := t.faults, firstComment := g.first }

def scanFirst (s : List Char) : Scanned := scan { atLineStart := true } false 0 s

def scanNext (t : Scanned) : Scanned :=
  scan { atLineStart := false } t.token.lexeme.expectsMore t.token.stop t.rest

def retake (t : Scanned) (new : Taken) : Scanned :=
  { t with
    token := { t.token with lexeme := new.lexeme, stop := new.stop }
    rest := new.rest, faults := new.faults }

def flagFaults : (seen : List Char) → (pos : Nat) → List Char → List Fault
  | seen, pos, [] => if 'u' ∈ seen ∧ 'v' ∈ seen then [⟨.clashingRegexFlags, pos⟩] else []
  | seen, pos, c :: cs =>
    if c ∉ regexFlags then ⟨.regexFlag c, pos⟩ :: flagFaults seen (pos + 1) cs
    else if c ∈ seen then ⟨.repeatedRegexFlag c, pos⟩ :: flagFaults seen (pos + 1) cs
    else flagFaults (c :: seen) (pos + 1) cs

def rescanRegex (t : Scanned) : Scanned :=
  let start := t.token.start
  let body := takeRegex false (start + 1) t.here.tail
  if body.closed then
    let (flags, rest) := body.rest.span isFlagChar
    let written := regexFlags.filter fun c => c ∈ flags
    retake t
      ⟨.regex (String.ofList ('/' :: body.raw ++ '/' :: written)), body.stop + flags.length, rest,
        flagFaults [] body.stop flags⟩
  else retake t ⟨.regex "", body.stop, body.rest, [⟨.unterminatedRegex, start⟩]⟩

def rescanTemplate (t : Scanned) : Scanned := retake t (takeTemplate t.token.start t.here)

/-- Reads a closing angle with the signs right after it. -/
def rescanAngle (t : Scanned) : Scanned :=
  match takeSign? angleSigns t.here with
  | some (sign, rest) => retake t ⟨.sign sign, t.token.start + sign.length, rest, []⟩
  | none => t

/-- Whether the text from a token on looks like a mark between two versions of it. -/
def isDiffMarker (t : Scanned) : Bool :=
  let seven (c : Char) := (t.here.take 7) == List.replicate 7 c
  let next := (t.here.drop 7).headD '\n'
  t.token.newline &&
    (seven '=' || ((seven '<' || seven '>' || seven '|') && next == ' '))

end TemplateWiring.Script
