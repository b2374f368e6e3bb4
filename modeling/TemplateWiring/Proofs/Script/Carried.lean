import TemplateWiring.Script.Program
import TemplateWiring.Proofs.Script.Answers

/-! Properties that a term keeps on its way up, from the production that reads it to the statement
that it makes up. On the way it becomes part of another term, which is no class, or stays what it
is. -/

namespace TemplateWiring.Script

namespace Term

def isClass (t : Term) : Bool :=
  match t.bare with
  | .classExpr .. => true
  | _ => false

/-- A property that all terms have which are no classes, and that marks do not change. -/
structure Carried (P : Term → Prop) : Prop where
  other {t : Term} (other : t.isClass = false) : P t
  pure {t : Term} (holds : P t) : P (Grammar.markPure t)
  noEffects {t : Term} (holds : P t) : P (Grammar.markNoEffects t)

end Term

namespace Grammar

open TemplateWiring.Script.Parser

theorem isClass_markPure (t : Term) : (markPure t).isClass = t.isClass := by
  fun_induction markPure t with
  | case1 inner ih => exact ih
  | case2 start inner ih => exact ih
  | _ => rfl

variable {P : Term → Prop} {place : Scanned → Prop} {g : Grammar} {set : Setting} {s : State}

/-- What a grammar reads at some places has a property. -/
structure Reads (place : Scanned → Prop) (P : Term → Prop) (g : Grammar) : Prop where
  unary (set : Setting) (s : State) (here : place s.current) :
    (g.unary set).Answers s fun t _ => P t
  binary (level : Nat) (set : Setting) (s : State) (here : place s.current) :
    (g.binary level set).Answers s fun t _ => P t
  assignment (set : Setting) (s : State) (here : place s.current) :
    (g.assignment set).Answers s fun t _ => P t

theorem optionalAccess_other {object : Term} :
    (optionalAccess? g set object).Answers s fun t? _ => ∀ t ∈ t?, t.isClass = false := by
  unfold optionalAccess?
  refine .skip fun next _ => ?_
  split
  · split
    · exact .pure (by simp)
    · exact .skip fun _ _ => .skip fun _ _ => .pure (by simp [Term.isClass, Term.bare])
  · exact .skip fun _ _ => .skip fun _ _ => .pure (by simp [Term.isClass, Term.bare])
  · exact .skip fun _ _ => .skip fun _ _ => .pure (by simp [Term.isClass, Term.bare])
  · exact .pure (by simp)

theorem taggedTemplate_other {a : Access} :
    (taggedTemplate g set a).Answers s fun b _ => b.term.isClass = false := by
  unfold taggedTemplate
  split
  · exact .skip fun _ _ => .skip fun _ _ => .skip fun _ _ => .pure rfl
  · exact .skip fun _ _ => .pure rfl

theorem accesses_carried (carried : Term.Carried P) {bound : Nat} {a : Access} (head : P a.term) :
    (accesses g set bound a).Answers s fun b _ => P b.term := by
  induction bound generalizing a s with
  | zero => exact .pure head
  | succ bound ih =>
      unfold accesses
      refine .skip fun next _ => ?_
      split
      · split
        · exact .pure head
        · exact .skip fun key _ => ih (carried.other rfl)
      · exact .skip fun _ _ => .skip fun name _ => ih (carried.other rfl)
      · refine .bind optionalAccess_other fun access? _ other => ?_
        cases access? with
        | none => exact .pure head
        | some term => exact ih (carried.other (other term rfl))
      · exact .bind taggedTemplate_other fun b _ other => ih (carried.other other)
      · exact .pure head

theorem optionalCall_other {start : Nat} {a : Access} :
    (optionalCall g set start a).Answers s fun b _ => b.term.isClass = false := by
  unfold optionalCall
  refine .skip fun next _ => ?_
  split
  · exact .skip fun args _ => .pure rfl
  · exact taggedTemplate_other
  · exact .stop _ _

theorem calls_carried (carried : Term.Carried P) {bound : Nat} {a : Access} (head : P a.term) :
    (calls g set bound a).Answers s fun b _ => P b.term := by
  induction bound generalizing a s with
  | zero => exact .pure head
  | succ bound ih =>
      unfold calls
      refine .skip fun _ _ => .bind (accesses_carried carried head) fun b _ reached => ?_
      refine .skip fun start _ => .skip fun optional _ => ?_
      split
      · exact .bind optionalCall_other fun c _ other => ih (carried.other other)
      · refine .skip fun called _ => ?_
        split
        · exact .skip fun args _ => ih (carried.other rfl)
        · exact .pure reached

theorem chainExpression_carried (carried : Term.Carried P)
    (head : (memberHead g set).Answers s fun t _ => P t) :
    (chainExpression g set).Answers s fun t _ => P t := by
  have member : (memberExpression g set).Answers s fun m _ => P m.1 := by
    unfold memberExpression
    refine .bind head fun head _ holds => .skip fun _ _ => ?_
    exact .bind (accesses_carried carried holds) fun a _ reached => .pure reached
  unfold chainExpression
  refine .bind member fun m _ holds => .skip fun _ _ => ?_
  refine .bind (calls_carried carried holds) fun a _ reached => .pure ?_
  split
  · exact carried.other rfl
  · exact reached

theorem updateExpression_carried (carried : Term.Carried P)
    (head : (memberHead g set).Answers s fun t _ => P t) :
    (updateExpression g set).Answers s fun t _ => P t := by
  have postfixed (start : Nat) :
      (updateExpression.postfixed g set start).Answers s fun t _ => P t := by
    unfold updateExpression.postfixed
    refine .bind (chainExpression_carried carried head) fun e _ holds => .skip fun next _ => ?_
    split
    · refine .skip fun _ _ => ?_
      split
      · exact .skip fun _ _ => .skip fun _ _ => .pure (carried.other rfl)
      · exact .pure holds
    · exact .pure holds
  unfold updateExpression
  refine .offset (.lexeme ?_)
  split
  · split
    · exact .skip fun _ _ => .skip fun _ _ => .skip fun _ _ => .skip fun _ _ =>
        .pure (carried.other rfl)
    · exact postfixed _
  · exact postfixed _

theorem isOperatorWord_stays {word : String} {enabled : Bool} :
    (isOperatorWord word enabled).Answers s fun _ after => after = s := by
  unfold isOperatorWord operatorWordFollows
  refine .atWord ?_
  split
  · split
    · exact .pure rfl
    · exact .ahead _
  · exact .pure rfl

theorem unaryExpression_carried (carried : Term.Carried P)
    (head : (memberHead g set).Answers s fun t _ => P t) :
    (unaryExpression g set).Answers s fun t _ => P t := by
  have simple : (simpleUnary g set).Answers s fun t _ => P t := by
    unfold simpleUnary
    refine .lexeme ?_
    split
    · exact .skip fun _ _ => .skip fun _ _ => .pure (carried.other rfl)
    · refine .atSign ?_
      split
      · exact .skip fun _ _ => .stop _ _
      · refine .bind isOperatorWord_stays fun waits _ stays => ?_
        subst stays
        split
        · unfold awaitExpression
          refine .optionally (fun _ => ?_) fun told => .skip fun _ _ => .skip fun _ _ => told _
          exact .skip fun _ _ => .skip fun _ _ => .pure (carried.other rfl)
        · exact updateExpression_carried carried head
  unfold unaryExpression
  refine .token (.bind simple fun e _ holds => .pure ?_)
  split
  · exact carried.pure holds
  · exact holds

theorem typeOperand_stops {α : Type} {word : String} {start : Nat} {Q : α → State → Prop} :
    Answers (typeOperand word start) s Q := by
  unfold typeOperand
  refine .skip fun _ _ => .skip fun typed _ => ?_
  split
  · exact .stop _ _
  · exact .unexpected

theorem binaryTail_carried (carried : Term.Carried P) {level start bound : Nat} {left : Operand}
    (first : P left.term) :
    (binaryTail g set level start bound left).Answers s fun t _ => P t := by
  induction bound generalizing left s with
  | zero => exact .pure first
  | succ bound ih =>
      unfold binaryTail
      refine .skip fun angle _ => .optionally (fun mid => ?_) fun told => .skip fun _ _ => told _
      refine .skip fun op _ => .skip fun newline _ => ?_
      split
      · exact .pure first
      · split
        · exact typeOperand_stops
        · refine .skip fun _ _ => .skip fun rightStart _ => .skip fun parenthesized _ =>
            .skip fun right _ => ?_
          split
          · exact .stop _ _
          · refine .optionally (fun mid => ?_) fun told => .skip fun _ _ => told _
            exact ih (carried.other rfl)

theorem privateIn_other {name : String} :
    (privateIn g set name).Answers s fun t _ => t.isClass = false := by
  unfold privateIn
  refine .skip fun _ _ => .skip fun _ _ => .skip fun _ _ => .skip fun right _ => ?_
  split
  · exact .stop _ _
  · exact .pure rfl

theorem binaryExpression_carried (carried : Term.Carried P) (reads : Reads place P g)
    {level : Nat} (here : place s.current) :
    (binaryExpression g level set).Answers s fun t _ => P t := by
  have guarded : (guardedUnary g set).Answers s fun t _ => P t := by
    unfold guardedUnary
    refine .offset (.lexeme (.bind (reads.unary set s here) fun e _ holds => ?_))
    refine .skip fun powered _ => ?_
    split
    · exact .stop _ _
    · exact .pure holds
  unfold binaryExpression
  refine .offset (.atSign (.lexeme ?_))
  split
  · split
    · refine .bind privateIn_other fun first _ other => .skip fun bound _ => ?_
      exact binaryTail_carried carried (carried.other other)
    · exact .bind .unexpected fun _ _ none => none
  · refine .bind guarded fun first _ holds => .skip fun bound _ => ?_
    exact binaryTail_carried carried holds

theorem arrowRest_other {isAsync : Bool} {params : List Term} :
    (arrowRest g set isAsync params).Answers s fun t _ => t.isClass = false := by
  unfold arrowRest
  refine .skip fun newline _ => .optionally (fun mid => ?_) fun told =>
    .skip fun _ _ => .skip fun _ _ => told _
  refine .skip fun _ _ => .skip fun block _ => ?_
  split
  · exact .skip fun _ _ => .pure rfl
  · exact .skip fun _ _ => .pure rfl

theorem choice_carried (carried : Term.Carried P) {test : Term} (holds : P test) :
    (choice g set test).Answers s fun t _ => P t := by
  unfold choice
  refine .skip fun asked _ => ?_
  split
  · exact .skip fun _ _ => .skip fun _ _ => .skip fun _ _ => .pure (carried.other rfl)
  · exact .pure holds

theorem assignmentRest_carried (carried : Term.Carried P) (reads : Reads place P g)
    (here : place s.current) : (assignmentRest g set).Answers s fun t _ => P t := by
  unfold assignmentRest
  refine .offset (.bind (reads.binary 0 set s here) fun left _ holds => ?_)
  refine .skip fun next _ => ?_
  split
  · refine .skip fun arrow _ => ?_
    split
    · exact arrowRest_other.imp fun t _ other => carried.other other
    · exact choice_carried carried holds
  · exact choice_carried carried holds
  · exact .skip fun _ _ => .skip fun _ _ => .skip fun _ _ => .pure (carried.other rfl)

theorem parenthesizedArrow_other :
    (parenthesizedArrow? g set).Answers s fun arrow? after =>
      (∀ t ∈ arrow?, t.isClass = false) ∧ (arrow? = none → after.current = s.current) := by
  unfold parenthesizedArrow?
  refine .bind (.ahead _) fun likely _ same => ?_
  rw [same]
  split
  · exact .pure ⟨by simp, fun _ => rfl⟩
  · refine .skip fun head _ => ?_
    exact .bind arrowRest_other fun t _ other => .pure ⟨by simpa using other, by simp⟩
  · refine .bind .attempt fun head? _ kept => ?_
    cases head? with
    | none => exact .pure ⟨by simp, fun _ => kept rfl⟩
    | some head =>
        exact .bind arrowRest_other fun t _ other => .pure ⟨by simpa using other, by simp⟩

theorem asyncArrow_other :
    (asyncArrow? g set).Answers s fun arrow? after =>
      (∀ t ∈ arrow?, t.isClass = false) ∧ (arrow? = none → after.current = s.current) := by
  unfold asyncArrow?
  refine .bind (.ahead _) fun fits _ same => ?_
  rw [same]
  split
  · refine .skip fun _ _ => .skip fun param _ => ?_
    exact .bind arrowRest_other fun t _ other => .pure ⟨by simpa using other, by simp⟩
  · exact .pure ⟨by simp, fun _ => rfl⟩

theorem yieldExpression_other :
    (yieldExpression g set).Answers s fun t _ => t.isClass = false := by
  unfold yieldExpression
  refine .skip fun start _ => .optionally (fun _ => ?_) fun told => .skip fun _ _ => told _
  refine .skip fun _ _ => .skip fun newline _ => ?_
  split
  · exact .pure rfl
  · refine .skip fun delegate _ => .skip fun next _ => ?_
    split
    · exact .pure rfl
    · exact .skip fun _ _ => .pure rfl

theorem assignmentExpression_carried (carried : Term.Carried P) (reads : Reads place P g)
    (here : place s.current) : (assignmentExpression g set).Answers s fun t _ => P t := by
  have unmarked : (unmarkedAssignment g set).Answers s fun t _ => P t := by
    unfold unmarkedAssignment
    refine .bind isOperatorWord_stays fun yields _ stays => ?_
    subst stays
    split
    · exact yieldExpression_other.imp fun t _ other => carried.other other
    · refine .bind parenthesizedArrow_other fun arrow? _ read => ?_
      obtain ⟨other, kept⟩ := read
      cases arrow? with
      | some arrow => exact .pure (carried.other (other arrow rfl))
      | none =>
          refine .bind asyncArrow_other fun arrow? _ read => ?_
          obtain ⟨other, still⟩ := read
          cases arrow? with
          | some arrow => exact .pure (carried.other (other arrow rfl))
          | none =>
              apply assignmentRest_carried carried reads
              rw [still rfl, kept rfl]
              exact here
  unfold assignmentExpression
  refine .token (.bind unmarked fun e _ holds => .pure ?_)
  split
  · exact carried.noEffects holds
  · exact holds

/-- It is enough that the innermost productions read terms with the property. -/
theorem reads_nestedTo (carried : Term.Carried P)
    (head : ∀ g : Grammar, Reads place P g → ∀ set s, place s.current →
      (memberHead g set).Answers s fun t _ => P t)
    (depth : Nat) : Reads place P (nestedTo depth) := by
  induction depth with
  | zero =>
      exact ⟨fun _ _ _ => .unexpected, fun _ _ _ _ => .unexpected, fun _ _ _ => .unexpected⟩
  | succ depth ih =>
      exact ⟨fun set s here => unaryExpression_carried carried (head _ ih set s here),
        fun _ _ _ here => binaryExpression_carried carried ih here,
        fun _ _ here => assignmentExpression_carried carried ih here⟩

theorem expression_carried (carried : Term.Carried P) (reads : Reads place P g)
    (here : place s.current) : (expression g set).Answers s fun t _ => P t := by
  unfold expression
  refine .bind (reads.assignment set s here) fun first _ holds => .skip fun more _ => ?_
  split
  · exact .skip fun _ _ => .pure (carried.other rfl)
  · exact .pure holds

theorem expr_of_markDeclared {t e : Term} (marked : markDeclared t = .expr e) : t = .expr e := by
  fun_cases markDeclared t with
  | case1 => cases marked
  | case2 => cases marked
  | case3 => cases marked
  | case4 => simpa [markDeclared] using marked

theorem statementItem_carried (carried : Term.Carried P) (reads : Reads place P g) {alone : Bool}
    (here : place s.current) (opens : s.current.token.lexeme = .sign "(") :
    (statementItem g alone set).Answers s fun t _ => ∀ e, t = .expr e → P e := by
  have statement : (expressionStatement g set).Answers s fun t _ => ∀ e, t = .expr e → P e := by
    unfold expressionStatement
    refine .bind (expression_carried carried reads here) fun e _ holds => ?_
    split
    · refine .skip fun labeled _ => ?_
      split
      · exact .skip fun _ _ => .pure (by simp)
      · exact .skip fun _ _ => .pure (by simpa using holds)
    · exact .skip fun _ _ => .pure (by simpa using holds)
  have unmarked : (unmarkedStatement g alone set).Answers s fun t _ =>
      ∀ e, t = .expr e → P e := by
    unfold unmarkedStatement
    refine .lexeme ?_
    rw [opens]
    exact statement
  unfold statementItem
  refine .token (.bind unmarked fun t _ holds => .pure ?_)
  split
  · intro e marked
    exact holds e (expr_of_markDeclared marked)
  · exact holds

end Grammar

end TemplateWiring.Script
