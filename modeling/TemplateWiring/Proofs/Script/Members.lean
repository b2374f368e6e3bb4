import TemplateWiring.Proofs.Script.Opening

namespace TemplateWiring.Script

namespace Term

inductive IsMember : Term → Prop
  | method (decorators : List Term) (words : MemberWords) (kind : MethodKind)
      (isAsync isGenerator : Bool) (key : Term) (params body : List Term) (text : MethodText)
      (own : kind = .constructor → words.isStatic = false) :
      IsMember (.method decorators words kind isAsync isGenerator key params body text)
  | field (decorators : List Term) (words : MemberWords) (isAccessor : Bool) (key : Term)
      (keyText : String) (value : Option Term) :
      IsMember (.field decorators words isAccessor key keyText value)
  | staticBlock (body : List Term) : IsMember (.staticBlock body)
  | noted (comments : List Comment) {m : Term} (member : IsMember m) :
      IsMember (.noted comments m)

/-- If it is a class, perhaps in parentheses, it holds members. -/
def HoldsMembers (t : Term) : Prop :=
  ∀ decorators name parent interfaces members,
    t.bare = .classExpr decorators name parent interfaces members → ∀ m ∈ members, m.IsMember

theorem isMember_withComments (comments : List Comment) {m : Term} (member : m.IsMember) :
    (withComments comments m).IsMember := by
  rw [withComments]
  split
  · exact member
  · exact .noted comments member

theorem holdsMembers_of_not {t : Term} (other : t.isClass = false) : t.HoldsMembers := by
  intro decorators name parent interfaces members bare
  rw [isClass, bare] at other
  cases other

end Term

namespace Grammar

open TemplateWiring.Script.Parser

variable {g : Grammar} {set : Setting} {s : State}

theorem bare_markPure {t : Term} (found : t.isClass = true) : (markPure t).bare = t.bare := by
  fun_induction markPure t with
  | case1 inner ih => exact ih found
  | case2 start inner ih => exact ih found
  | case8 t => rfl
  | _ => cases found

theorem atConstructor_instance {isStatic : Bool} :
    (atConstructor isStatic).Answers s fun found _ => found = true → isStatic = false := by
  unfold atConstructor
  split
  · exact .pure nofun
  next shared =>
    intro found _ _ _
    simpa using shared

theorem methodRest_member {decorators : List Term} {ms : List Modifier} {kind : MethodKind}
    {isGenerator isOptional : Bool} {name : MemberName}
    (own : kind = .constructor → hasModifier ms "static" = false) :
    (methodRest g set decorators ms kind isGenerator isOptional name).Answers s fun t _ =>
      t.IsMember := by
  unfold methodRest
  refine .skip fun _ _ => .skip fun signature _ => .skip fun _ _ => .skip fun _ _ => ?_
  refine .optionally (fun _ => ?_) fun told => .skip fun _ _ => told _
  exact .skip fun _ _ => .pure (.method _ _ _ _ _ _ _ _ _ own)

theorem fieldRest_member {decorators : List Term} {ms : List Modifier} {isOptional : Bool}
    {name : MemberName} :
    (fieldRest g set decorators ms isOptional name).Answers s fun t _ => t.IsMember := by
  have ended (value? : Option Term) {s : State} :
      Answers
        (do
          if ← canEnd then
            discard (eatSign ";")
            return Term.field decorators (memberWords ms isOptional) (hasModifier ms "accessor")
              name.key name.text value?
          else stop (.expected ";" (← lexeme).found) (← offset))
        s fun t _ => t.IsMember := by
    refine .skip fun ends _ => ?_
    split
    · exact .skip fun _ _ => .pure (.field ..)
    · exact .skip fun _ _ => .skip fun _ _ => .stop _ _
  unfold fieldRest
  refine .skip fun _ _ => .optionally (fun _ => ?_) fun told => .skip fun _ _ => told _
  refine .optionally (fun _ => ?_) fun told => .skip fun _ _ => told _
  refine .skip fun _ _ => .skip fun assigned _ => ?_
  dsimp only
  split
  · refine .skip fun _ _ => .skip fun value? _ => ?_
    exact .optionally (fun _ => ended value?) fun told => .skip fun _ _ => told _
  · refine .skip fun value? _ => ?_
    exact .optionally (fun _ => ended value?) fun told => .skip fun _ _ => told _

theorem staticBlock_member : (staticBlock g set).Answers s fun t _ => t.IsMember := by
  unfold staticBlock
  exact .skip fun _ _ => .skip fun _ _ => .skip fun body _ => .skip fun _ _ =>
    .pure (Term.IsMember.staticBlock body)

theorem classMember_member : (classMember g set).Answers s fun t _ => t.IsMember := by
  unfold classMember
  refine .skip fun start _ => .skip fun decorators _ => .skip fun ms _ => ?_
  refine .skip fun isStatic _ => .skip fun isBlock _ => ?_
  split
  · exact .optionally (fun _ => staticBlock_member) fun told => .skip fun _ _ => told _
  · refine .skip fun gets _ => ?_
    split
    · exact .skip fun name _ => methodRest_member nofun
    · refine .skip fun sets _ => ?_
      split
      · exact .skip fun name _ => methodRest_member nofun
      · refine .bind atConstructor_instance fun constructs _ own => ?_
        split
        next yes => exact .skip fun name _ => methodRest_member fun _ => own yes
        · refine .skip fun indexed _ => ?_
          split
          · exact .skip fun _ _ => .skip fun _ _ => .unexpected
          · refine .skip fun isGenerator _ => .skip fun name _ => .skip fun isOptional _ =>
              .skip fun called _ => ?_
            split
            · exact methodRest_member nofun
            · exact fieldRest_member

theorem classMembers_member {bound : Nat} :
    (classMembers g set bound).Answers s fun ms _ => ∀ m ∈ ms, m.IsMember := by
  induction bound generalizing s with
  | zero => exact .pure (by simp)
  | succ bound ih =>
      have first {s : State} :
          (Parser.withComments (classMember g set)).Answers s fun m _ => m.IsMember := by
        unfold Parser.withComments
        exact .skip fun cs _ => .bind classMember_member fun m _ member =>
          .pure (Term.isMember_withComments cs member)
      unfold classMembers
      refine .skip fun _ _ => .skip fun closed _ => ?_
      split
      · exact .pure (by simp)
      · exact .bind first fun m _ member => .bind ih fun rest _ members =>
          .pure (by simpa using ⟨member, members⟩)

theorem classRest_members {decorators : List Term} :
    (classRest g set decorators).Answers s fun t _ => t.HoldsMembers := by
  have opened (name : Option NameAt) {s : State} :
      Answers
        (do
          let h ← heritage g set (← remaining) {}
          expectSign "\x7b"
          let members ← classMembers g { set with allowIn := true } (← remaining)
          expectSign "\x7d"
          return Term.classExpr decorators name h.parent h.interfaces members)
        s fun t _ => t.HoldsMembers := by
    refine .skip fun _ _ => .skip fun h _ => .skip fun _ _ => .skip fun _ _ => ?_
    refine .bind classMembers_member fun members _ held => .skip fun _ _ => .pure ?_
    intro _ _ _ _ found bare
    cases bare
    exact held
  unfold classRest
  refine .skip fun _ _ => .skip fun next _ => .skip fun announced _ => ?_
  split
  · exact .skip fun _ _ => .skip fun name _ => opened name
  · exact .skip fun name _ => opened name

theorem function_other {start : Nat} {isAsync declared named : Bool} :
    (function g set start isAsync declared named).Answers s fun t _ => t.isClass = false := by
  have headed (isGenerator : Bool) (name : Option NameAt) {s : State} :
      Answers
        (do
          let s ← signature g set isAsync isGenerator start
          return Term.function ⟨isAsync, isGenerator, name, false⟩ s.params.items s.body)
        s fun t _ => t.isClass = false :=
    .skip fun _ _ => .pure rfl
  unfold function
  refine .skip fun _ _ => .skip fun isGenerator _ => .skip fun next _ => ?_
  dsimp only
  split
  · exact .skip fun _ _ => .skip fun name _ => headed isGenerator name
  · exact .skip fun _ _ => .skip fun name _ => headed isGenerator name

theorem name_other : (name set).Answers s fun t _ => t.isClass = false := by
  unfold name
  refine .skip fun next _ => ?_
  split
  · refine .skip fun _ _ => ?_
    dsimp only
    split
    · exact .unexpected
    · exact .skip fun _ _ => .pure rfl
  · exact .unexpected

theorem wordPrimary_holds {text : String} :
    (wordPrimary g set text).Answers s fun t _ => t.HoldsMembers := by
  unfold wordPrimary
  refine .skip fun start _ => ?_
  split
  · exact .skip fun _ _ => .pure (Term.holdsMembers_of_not rfl)
  · exact .skip fun _ _ => .pure (Term.holdsMembers_of_not rfl)
  · exact .skip fun _ _ => .pure (Term.holdsMembers_of_not rfl)
  · exact .skip fun _ _ => .pure (Term.holdsMembers_of_not rfl)
  · exact function_other.imp fun _ _ other => Term.holdsMembers_of_not other
  · exact classRest_members
  · refine .skip fun follows _ => ?_
    split
    · exact .skip fun _ _ => function_other.imp fun _ _ other => Term.holdsMembers_of_not other
    · exact name_other.imp fun _ _ other => Term.holdsMembers_of_not other
  · exact name_other.imp fun _ _ other => Term.holdsMembers_of_not other

theorem regex_other : regex.Answers s fun t _ => t.isClass = false := by
  unfold regex
  refine .skip fun _ _ => .skip fun next _ => .skip fun state _ => ?_
  split
  · exact .skip fun _ _ => .pure rfl
  · exact .unexpected

theorem array_other : (array g set).Answers s fun t _ => t.isClass = false := by
  unfold array
  exact .skip fun _ _ => .skip fun list _ => .skip fun _ _ => .pure rfl

theorem object_other : (object g set).Answers s fun t _ => t.isClass = false := by
  unfold object
  exact .skip fun _ _ => .skip fun list _ => .skip fun _ _ => .pure rfl

theorem construct_other : (construct g set).Answers s fun t _ => t.isClass = false := by
  unfold construct
  refine .skip fun start _ => .skip fun _ _ => .skip fun dotted _ => ?_
  split
  · refine .skip fun target _ => ?_
    split
    · exact .pure rfl
    · exact .stop _ _
  · refine .skip fun calleeStart _ => .skip fun callee _ => .skip fun args _ => ?_
    dsimp only
    refine .optionally (fun _ => ?_) fun told => .skip fun _ _ => told _
    exact .optionally (fun _ => .pure rfl) fun told => .skip fun _ _ => told _

theorem importTerm_other : (importTerm g set).Answers s fun t _ => t.isClass = false := by
  unfold importTerm
  refine .skip fun start _ => .skip fun _ _ => .skip fun dotted _ => ?_
  split
  · refine .skip fun next _ => ?_
    split
    · exact .skip fun _ _ => .pure rfl
    · exact .skip fun _ _ => .skip fun _ _ => .pure rfl
    · exact .skip fun _ _ => .skip fun _ _ => .pure rfl
    · exact .stop _ _
  · refine .skip fun called _ => ?_
    split
    · exact .skip fun _ _ => .pure rfl
    · exact .unexpected

theorem separatedTail_holds {α : Type} {P : α → Prop} {close : String} {step : Parser α}
    (each : ∀ s, step.Answers s fun a _ => P a) {bound : Nat} :
    (separatedTail close step bound).Answers s fun list _ => ∀ a ∈ list.1, P a := by
  induction bound generalizing s with
  | zero => exact .pure (by simp)
  | succ bound ih =>
      unfold separatedTail
      refine .skip fun closed _ => ?_
      split
      · exact .pure (by simp)
      · refine .skip fun comma _ => ?_
        split
        · refine .skip fun _ _ => .skip fun _ _ => .skip fun closed _ => ?_
          split
          · exact .pure (by simp)
          · refine .bind (each _) fun a _ holds => .bind ih fun rest _ others => .pure ?_
            simpa using ⟨holds, others⟩
        · exact .skip fun _ _ => .skip fun _ _ => .stop _ _

theorem separated_holds {α : Type} {P : α → Prop} {close : String} {step : Parser α}
    (each : ∀ s, step.Answers s fun a _ => P a) :
    (separated close step).Answers s fun list _ => ∀ a ∈ list.1, P a := by
  unfold separated
  refine .skip fun closed _ => ?_
  split
  · exact .pure (by simp)
  · refine .bind (each _) fun a _ holds => .skip fun _ _ => ?_
    refine .bind (separatedTail_holds each) fun rest _ others => .pure ?_
    simpa using ⟨holds, others⟩

theorem parenthesized_holds (reads : Reads (fun _ => True) Term.HoldsMembers g) :
    (parenthesized g set).Answers s fun t _ => t.HoldsMembers := by
  unfold parenthesized
  refine .skip fun start _ => .skip fun _ _ => .skip fun first _ => ?_
  refine .bind (separated_holds fun s => reads.assignment (inner set) s trivial) ?_
  intro list _ held
  obtain ⟨items, trailing⟩ := list
  dsimp only at held ⊢
  split
  · exact .stop _ _
  · exact .skip fun _ _ => .stop _ _
  next e =>
    exact .skip fun _ _ => .pure fun _ _ _ _ members bare =>
      held e (by simp) _ _ _ _ members bare
  · exact .skip fun _ _ => .pure (Term.holdsMembers_of_not rfl)

theorem primary_holds (reads : Reads (fun _ => True) Term.HoldsMembers g) :
    (primary g set).Answers s fun t _ => t.HoldsMembers := by
  unfold primary
  refine .skip fun next _ => ?_
  split
  · exact wordPrimary_holds
  · exact .skip fun _ _ => .pure (Term.holdsMembers_of_not rfl)
  · exact .skip fun _ _ => .pure (Term.holdsMembers_of_not rfl)
  · exact .skip fun _ _ => .pure (Term.holdsMembers_of_not rfl)
  · exact .skip fun pieces _ => .pure (Term.holdsMembers_of_not rfl)
  · exact array_other.imp fun _ _ other => Term.holdsMembers_of_not other
  · exact object_other.imp fun _ _ other => Term.holdsMembers_of_not other
  · exact parenthesized_holds reads
  · refine .skip fun decorators _ => .skip fun isClass _ => ?_
    split
    · exact classRest_members
    · exact .unexpected
  · exact regex_other.imp fun _ _ other => Term.holdsMembers_of_not other
  · exact regex_other.imp fun _ _ other => Term.holdsMembers_of_not other
  · exact .unexpected

theorem memberHead_holds (reads : Reads (fun _ => True) Term.HoldsMembers g) :
    (memberHead g set).Answers s fun t _ => t.HoldsMembers := by
  unfold memberHead
  refine .skip fun next _ => ?_
  split
  · refine .skip fun start _ => .skip fun _ _ => .skip fun _ _ => .skip fun _ _ =>
      .skip fun _ _ => ?_
    exact .optionally (fun _ => .pure (Term.holdsMembers_of_not rfl)) fun told =>
      .skip fun _ _ => told _
  · exact construct_other.imp fun _ _ other => Term.holdsMembers_of_not other
  · exact importTerm_other.imp fun _ _ other => Term.holdsMembers_of_not other
  · exact primary_holds reads

theorem holdsMembers_carried : Term.Carried Term.HoldsMembers where
  other := Term.holdsMembers_of_not
  pure {t} holds := by
    by_cases found : t.isClass = true
    · intro _ _ _ _ members bare
      rw [bare_markPure found] at bare
      exact holds _ _ _ _ members bare
    · apply Term.holdsMembers_of_not
      rw [isClass_markPure]
      simpa using found
  noEffects {t} holds := by
    fun_cases markNoEffects t with
    | case1 => exact Term.holdsMembers_of_not rfl
    | case2 => exact Term.holdsMembers_of_not rfl
    | case3 => exact holds

theorem holdsMembers_nestedTo (depth : Nat) :
    Reads (fun _ => True) Term.HoldsMembers (nestedTo depth) :=
  reads_nestedTo holdsMembers_carried (fun _ reads _ _ _ => memberHead_holds reads) depth

end Grammar

theorem parse_holdsMembers {text : List Char} {e : Term} {rest : List Term}
    (parsed : parse ('(' :: text) = .ok (.expr e :: rest)) : e.HoldsMembers := by
  obtain ⟨after, first, -⟩ := parse_opening parsed
  exact firstStatement_carried Grammar.holdsMembers_carried Grammar.holdsMembers_nestedTo trivial
    first

end TemplateWiring.Script
