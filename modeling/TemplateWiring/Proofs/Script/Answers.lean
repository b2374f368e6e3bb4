import TemplateWiring.Script.Parser.Basic

namespace TemplateWiring.Script.Parser

variable {α β : Type} {p : Parser α} {f : α → Parser β} {s : State}
variable {Q : α → State → Prop} {R : β → State → Prop}

/-- The answer of a parser at a state, if there is one, and the state after it are as told. -/
def Answers (p : Parser α) (s : State) (Q : α → State → Prop) : Prop :=
  ∀ a after, p s = .ok (a, after) → Q a after

namespace Answers

theorem pure {a : α} (told : Q a s) : Answers (Pure.pure a) s Q := by
  intro b after answered
  cases answered
  exact told

theorem imp {Q' : α → State → Prop} (told : p.Answers s Q)
    (weaker : ∀ a after, Q a after → Q' a after) : p.Answers s Q' := by
  intro a after answered
  exact weaker a after (told a after answered)

theorem bind (first : p.Answers s Q) (next : ∀ a after, Q a after → (f a).Answers after R) :
    Answers (p >>= f) s R := by
  intro b after answered
  change (p s >>= fun r => f r.1 r.2) = .ok (b, after) at answered
  cases stepped : p s with
  | error h =>
      rw [stepped] at answered
      cases answered
  | ok r =>
      rw [stepped] at answered
      exact next r.1 r.2 (first r.1 r.2 stepped) b after answered

theorem skip (next : ∀ a after, (f a).Answers after R) : Answers (p >>= f) s R :=
  bind (Q := fun _ _ => True) (fun _ _ _ => trivial) fun a after _ => next a after

theorem stop (complaint : Complaint) (start : Nat) : Answers (Parser.stop complaint start) s Q := by
  intro a after answered
  cases answered

theorem unexpected : Answers Parser.unexpected s Q := by
  intro a after answered
  rw [Parser.unexpected] at answered
  split at answered <;> cases answered

theorem self : p.Answers s fun a after => p s = .ok (a, after) := fun _ _ answered => answered

theorem optionally {c : Prop} [Decidable c] {taken rest : Parser α}
    (told : ∀ s, rest.Answers s Q) (step : (∀ s, rest.Answers s Q) → taken.Answers s Q) :
    (if c then taken else rest).Answers s Q := by
  split
  · exact step told
  · exact told s

theorem token {f : Token → Parser β} (next : (f s.current.token).Answers s R) :
    Answers (Parser.token >>= f) s R :=
  next

theorem offset {f : Nat → Parser β} (next : (f s.current.token.start).Answers s R) :
    Answers (Parser.offset >>= f) s R :=
  next

theorem lexeme {f : Lexeme → Parser β} (next : (f s.current.token.lexeme).Answers s R) :
    Answers (Parser.lexeme >>= f) s R :=
  next

theorem comments {f : List Comment → Parser β}
    (next : (f s.current.token.comments).Answers s R) : Answers (Parser.comments >>= f) s R :=
  next

theorem atSign {text : String} {f : Bool → Parser β}
    (next : (f (s.current.token.lexeme.isSign text)).Answers s R) :
    Answers (Parser.atSign text >>= f) s R :=
  next

theorem atWord {text : String} {f : Bool → Parser β}
    (next : (f (s.current.token.lexeme.isWord text)).Answers s R) :
    Answers (Parser.atWord text >>= f) s R :=
  next

theorem ahead (otherwise : α) : (Parser.ahead p otherwise).Answers s fun _ after => after = s := by
  intro a after answered
  rw [Parser.ahead] at answered
  split at answered <;> cases answered <;> rfl

theorem attempt :
    (Parser.attempt p).Answers s fun a? after => a? = none → after.current = s.current := by
  intro a? after answered none
  rw [Parser.attempt] at answered
  split at answered
  · cases answered
    rfl
  · split at answered
    · cases answered
      cases none
    · cases answered
      rfl

end Answers

end TemplateWiring.Script.Parser
