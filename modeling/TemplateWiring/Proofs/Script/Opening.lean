import TemplateWiring.Proofs.Script.Carried

/-! Texts that open with a parenthesis. What is written after the parenthesis is closed makes a
class no class any more: it is called, accessed or calculated with. So the first statement of such a
text is a class only where the class stands in that parenthesis alone. -/

namespace TemplateWiring.Script

/-- Where a class is found, it is all that a pair of parentheses holds. -/
def Term.Enclosed (t : Term) : Prop :=
  t.isClass = true → ∃ start inner, t = .paren (.placed start inner)

namespace Grammar

open TemplateWiring.Script.Parser

variable {g : Grammar} {set : Setting} {s : State}

theorem enclosed_carried : Term.Carried Term.Enclosed where
  other other := by
    intro found
    rw [other] at found
    cases found
  pure {t} enclosed := by
    intro found
    rw [isClass_markPure] at found
    obtain ⟨start, inner, rfl⟩ := enclosed found
    exact ⟨start, markPure inner, rfl⟩
  noEffects {t} enclosed := by
    fun_cases markNoEffects t with
    | case1 => exact nofun
    | case2 => exact nofun
    | case3 => exact enclosed

theorem parenthesized_enclosed : (parenthesized g set).Answers s fun t _ => t.Enclosed := by
  unfold parenthesized
  refine .skip fun start _ => .skip fun _ _ => .skip fun first _ => .skip fun list _ => ?_
  obtain ⟨items, trailing⟩ := list
  dsimp only
  split
  · exact .stop _ _
  · exact .skip fun _ _ => .stop _ _
  · exact .skip fun _ _ => .pure fun _ => ⟨_, _, rfl⟩
  · exact .skip fun _ _ => .pure fun _ => ⟨_, _, rfl⟩

theorem memberHead_enclosed (opens : s.current.token.lexeme = .sign "(") :
    (memberHead g set).Answers s fun t _ => t.Enclosed := by
  unfold memberHead primary
  refine .lexeme ?_
  rw [opens]
  refine .lexeme ?_
  rw [opens]
  exact parenthesized_enclosed

/-- What a grammar reads from an opening parenthesis on is a class only where that parenthesis holds
it. -/
theorem enclosed_nestedTo (depth : Nat) :
    Reads (fun t => t.token.lexeme = .sign "(") Term.Enclosed (nestedTo depth) :=
  reads_nestedTo enclosed_carried (fun _ _ _ _ opens => memberHead_enclosed opens) depth

end Grammar

open TemplateWiring.Script.Parser

def firstStatement (s : List Char) : Except Halt (Term × State) :=
  (Grammar.nestedTo (4 * s.length + 7)).statementItem false moduleSetting (start s)

theorem start_opening (text : List Char) :
    (start ('(' :: text)).current.token = ⟨.sign "(", 0, 1, false, [], false, false⟩ := by
  cases text with
  | nil => rfl
  | cons c text => rfl

theorem firstStatement_carried {P : Term → Prop} {place : Scanned → Prop}
    (carried : Term.Carried P) (reads : ∀ depth, Grammar.Reads place P (Grammar.nestedTo depth))
    {text : List Char} {e : Term} {after : State} (here : place (start ('(' :: text)).current)
    (first : firstStatement ('(' :: text) = .ok (.expr e, after)) : P e := by
  have opens : (start ('(' :: text)).current.token.lexeme = .sign "(" := by
    rw [start_opening]
  exact Grammar.statementItem_carried carried (reads _) here opens (.expr e) after first e rfl

theorem firstStatement_enclosed {text : List Char} {e : Term} {after : State}
    (first : firstStatement ('(' :: text) = .ok (.expr e, after)) : e.Enclosed :=
  firstStatement_carried Grammar.enclosed_carried Grammar.enclosed_nestedTo
    (by rw [start_opening]) first

theorem notAtEnd_answers {s : State} :
    notAtEnd.Answers s fun more after =>
      (more = false ↔ s.current.token.lexeme = .finish) ∧ after = s := by
  unfold notAtEnd
  exact .lexeme (.pure ⟨by simp, rfl⟩)

theorem bodyItems_rest {g : Grammar} {set : Setting} {s : State} {bound : Nat} :
    (g.bodyItems set notAtEnd (bound + 1) false).Answers s fun items after =>
      (items = [] ↔ s.current.token.lexeme = .finish) ∧ (items = [] → after = s) := by
  unfold Grammar.bodyItems
  refine .bind notAtEnd_answers fun more _ asked => ?_
  obtain ⟨ended, rfl⟩ := asked
  cases more with
  | false => exact .pure ⟨by simpa using ended, fun _ => rfl⟩
  | true =>
      refine .skip fun first _ => .skip fun cs _ => .skip fun item _ => .skip fun rest _ => ?_
      exact .pure ⟨by simpa using ended, by simp⟩

theorem bodyItems_opening (g : Grammar) (set : Setting) (text : List Char) {bound : Nat} :
    (g.bodyItems set notAtEnd (bound + 1 + 1) true).Answers (start ('(' :: text))
      fun items ended => ∃ item rest after,
        g.statement false set (start ('(' :: text)) = .ok (item, after) ∧ items = item :: rest ∧
          (rest = [] ↔ after.current.token.lexeme = .finish) ∧ (rest = [] → ended = after) := by
  have opening := start_opening text
  unfold Grammar.bodyItems
  refine .bind notAtEnd_answers fun more _ asked => ?_
  obtain ⟨ended, rfl⟩ := asked
  rw [opening] at ended
  cases more with
  | false => simp at ended
  | true =>
      refine .lexeme (.comments ?_)
      rw [opening]
      refine .bind .self fun item after first => .bind bodyItems_rest fun rest _ left => .pure ?_
      exact ⟨item, rest, after, first, rfl, left⟩

theorem program_opening (text : List Char) :
    (program ('(' :: text)).Answers (start ('(' :: text)) fun items _ =>
      ∃ item rest after, firstStatement ('(' :: text) = .ok (item, after) ∧ items = item :: rest ∧
        (rest = [] ↔
          after.current.token.lexeme = .finish ∧ after.current.token.comments = []) := by
  unfold program
  refine .bind (bodyItems_opening _ _ text) fun items ended read => .comments (.pure ?_)
  obtain ⟨item, rest, after, first, rfl, last, stayed⟩ := read
  cases noted : ended.current.token.comments with
  | nil =>
      refine ⟨item, rest, after, first, rfl, fun none => ?_, fun finished => last.mpr finished.1⟩
      rw [← stayed none]
      exact ⟨stayed none ▸ last.mp none, noted⟩
  | cons c cs =>
      refine ⟨item, rest ++ [.remarks (c :: cs)], after, first, rfl, by simp, fun finished => ?_⟩
      rw [stayed (last.mpr finished.1), finished.2] at noted
      cases noted

theorem program_of_parse {s : List Char} {items : List Term} (parsed : parse s = .ok items) :
    ∃ after, program s (start s) = .ok (items, after) := by
  unfold parse at parsed
  split at parsed
  · cases parsed
  next read st ran =>
    split at parsed
    · cases parsed
    · split at parsed
      · cases parsed
      · cases parsed
        exact ⟨st, ran⟩

/-- What is parsed from an opening parenthesis on is the first statement and what comes after it. -/
theorem parse_opening {text : List Char} {item : Term} {rest : List Term}
    (parsed : parse ('(' :: text) = .ok (item :: rest)) :
    ∃ after, firstStatement ('(' :: text) = .ok (item, after) ∧
      (rest = [] ↔
        after.current.token.lexeme = .finish ∧ after.current.token.comments = []) := by
  obtain ⟨ended, ran⟩ := program_of_parse parsed
  obtain ⟨_, _, after, first, split, last⟩ := program_opening text _ ended ran
  cases split
  exact ⟨after, first, last⟩

end TemplateWiring.Script
