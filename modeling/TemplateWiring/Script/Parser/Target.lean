import TemplateWiring.Script.Parser.Basic

/-! Expressions read as what they are when something is assigned to them. Members such as `a = 1` of
an object are accounted for as soon as the object turns out to be a pattern. -/

namespace TemplateWiring.Script.Term

open TemplateWiring.Script.Parser

def isList : Term → Bool
  | array .. => true
  | object .. => true
  | _ => false

def simpleTarget (start : Nat) : Term → Parser Term
  | ident name => return ident name
  | dot base name false => return dot base name false
  | index base key false => return index base key false
  | paren inner => if isList inner.unplaced then stop .notAssignable start else simpleTarget start inner
  | placed start inner => simpleTarget start inner
  | _ => stop .notAssignable start

def restTarget (inObject : Bool) (start : Nat) (e : Term) (whole : Parser Term) : Parser Term :=
  match e with
  | placed start inner => restTarget inObject start inner whole
  | ident _ | dot _ _ false | index _ _ false | paren _ => whole
  | array .. | object .. => if inObject then stop .restArgument start else whole
  | _ => stop .restArgument start

def checkTrailing (trailing : Option Nat) : Parser Unit :=
  match trailing with
  | some comma => record .restTrailingComma comma
  | none => pure ()

def accountFor (start : Nat) : Parser Unit :=
  modify fun s => { s with pending := s.pending.erase start }

mutual

/-- The pattern or name that an expression is on the left of an assignment. -/
def target (start : Nat) : Term → Parser Term
  | array items trailing => do return arrayPattern true (← targetItems trailing items)
  | object properties trailing => do return objectPattern true (← targetFields trailing properties)
  | placed start inner => target start inner
  | e => simpleTarget start e

def targetItem (start : Nat) : Term → Parser Term
  | placed start inner => targetItem start inner
  | assign op goal value => do
    if op != "=" then record .defaultOperator start
    return withDefault goal value
  | e => target start e

def targetItems (trailing : Option Nat) : List Term → Parser (List Term)
  | [] => return []
  | [placed start (spread e)] => do
    let t ← restTarget false start e (target start e)
    checkTrailing trailing
    return [rest t]
  | placed start (spread _) :: _ => stop .spreadNotLast start
  | hole :: items => do return hole :: (← targetItems trailing items)
  | e :: items => do
    let t ← targetItem 0 e
    return t :: (← targetItems trailing items)

def targetFields (trailing : Option Nat) : List Term → Parser (List Term)
  | [] => return []
  | [placed start (spread e)] => do
    let t ← restTarget true start e (target start e)
    checkTrailing trailing
    return [rest t]
  | placed start (spread _) :: _ => stop .spreadNotLast start
  | short name start value :: fields => do
    accountFor start
    return short name start value :: (← targetFields trailing fields)
  | pair key value :: fields => do
    let t ← targetItem 0 value
    return pair key t :: (← targetFields trailing fields)
  | objectMethod _ _ _ _ _ _ start :: _ => stop .notAssignable start
  | _ :: _ => unexpected

end

end TemplateWiring.Script.Term
