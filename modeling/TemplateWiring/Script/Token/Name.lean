import TemplateWiring.Text.Word
import TemplateWiring.Script.Token
import TemplateWiring.Script.Token.Escape

namespace TemplateWiring.Script

open Text

structure Named where
  name : List Char
  stop : Nat
  rest : List Char
  escaped : Bool
  faults : List Fault

/-- The character that an escape in a name stands for, with its length. Halves make up nothing
here. -/
def nameEscape? (s : List Char) : Option (Char × Nat) :=
  match unicodeEscape? s with
  | some (.char c, k) => if k = 10 then none else some (c, k)
  | _ => none

def fitsName (atStart : Bool) (c : Char) : Bool := if atStart then isIdentStart c else isIdentPart c

def takeName (atStart : Bool) (pos : Nat) (s : List Char) : Named :=
  match s with
  | '\\' :: 'u' :: t =>
    match nameEscape? t with
    | some (c, k) =>
      let tail := takeName false (pos + 2 + k) (t.drop k)
      if fitsName atStart c then { tail with name := c :: tail.name, escaped := true }
      else
        { tail with
          escaped := true, faults := ⟨.invalidCharacter c, pos + 2 + k⟩ :: tail.faults }
    | none =>
      let tail := takeName false (pos + 2) t
      { tail with escaped := true, faults := ⟨.invalidNameEscape, pos + 1⟩ :: tail.faults }
  | '\\' :: t =>
    let tail := takeName false (pos + 1 + (t.headD 'a').utf8Size) (t.drop 1)
    { tail with escaped := true, faults := ⟨.invalidNameEscape, pos + 1⟩ :: tail.faults }
  | c :: t =>
    if isIdentPart c then
      let tail := takeName false (pos + c.utf8Size) t
      { tail with name := c :: tail.name }
    else ⟨[], pos, s, false, []⟩
  | [] => ⟨[], pos, [], false, []⟩
termination_by s.length
decreasing_by all_goals simp; try omega

def startsName (s : List Char) : Bool :=
  match s with
  | [] => false
  | c :: _ => isIdentStart c || c == '\\'

end TemplateWiring.Script
