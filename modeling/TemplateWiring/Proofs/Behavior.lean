import Mathlib.Data.List.Basic
import TemplateWiring.Behavior
import TemplateWiring.Proofs.Script.Opening

namespace TemplateWiring

def Failure.concernsMember : Failure → Bool
  | nonMethodMember _ | unsupportedMember .. => true
  | directoryRead .. | invalidPattern .. | duplicateInline _ | invalidInput _ => false

namespace Behavior

open Script (Term Lexeme firstStatement)

theorem member_of_entry {hook : String} {e : Failure} (m : Script.Term)
    (failed : entry hook m = .error e) : e.concernsMember = true := by
  fun_induction entry hook m with
  | case1 => cases failed; rfl
  | case2 => cases failed
  | case3 => cases failed; rfl
  | case4 => cases failed; rfl
  | case5 _ _ ih => exact ih failed
  | case6 => cases failed; rfl

theorem member_of_entries {hook : String} {e : Failure} (ms : List Script.Term)
    (failed : entries hook ms = .error e) : e.concernsMember = true := by
  induction ms with
  | nil => cases failed
  | cons m rest ih =>
      rw [entries] at failed
      cases head : entry hook m with
      | error other =>
          rw [head] at failed
          cases failed
          exact member_of_entry m head
      | ok text =>
          rw [head] at failed
          cases tail : entries hook rest with
          | error other =>
              rw [tail] at failed
              cases failed
              exact ih tail
          | ok texts =>
              rw [tail] at failed
              cases failed

theorem member_of_ofMembers {hook : String} {e : Failure} {parent : Option Script.Term}
    {members : List Script.Term} (failed : ofMembers hook parent members = .error (.fatal e)) :
    e.concernsMember = true := by
  rw [ofMembers] at failed
  split at failed
  · cases failed
  · cases listed : entries hook members with
    | error other =>
        rw [listed] at failed
        cases failed
        exact member_of_entries members listed
    | ok texts =>
        rw [listed] at failed
        dsimp only [serialize] at failed
        split at failed <;> cases failed

theorem member_of_ofClass {source hook : String} {e : Failure}
    (failed : ofClass source hook = .error (.fatal e)) : e.concernsMember = true := by
  unfold ofClass at failed
  split at failed
  · cases failed
  · split at failed
    · cases failed
    · exact member_of_ofMembers failed

def wrapped (source : String) : List Char := ("(" ++ source ++ "\n)").toList

theorem wrapped_eq (source : String) : ∃ text, wrapped source = '(' :: text := by
  refine ⟨(source ++ "\n)").toList, ?_⟩
  simp [wrapped]

theorem leadingClass_eq_some {items members : List Term} {parent : Option Term}
    (found : leadingClass? items = some (parent, members)) :
    ∃ e rest decorators name interfaces, items = .expr e :: rest ∧
      e.bare = .classExpr decorators name parent interfaces members := by
  unfold leadingClass? at found
  split at found
  next e rest =>
    split at found
    next bare =>
      cases found
      exact ⟨e, rest, _, _, _, rfl, bare⟩
    · cases found
  · cases found

theorem ofClass_leading {source : String} {e : Term} {rest decorators members : List Term}
    {name : Option Script.NameAt} {parent : Option Term} {interfaces : List String} (hook : String)
    (parsed : Script.parse (wrapped source) = .ok (.expr e :: rest))
    (bare : e.bare = .classExpr decorators name parent interfaces members) :
    ofClass source hook = ofMembers hook parent members := by
  have found : leadingClass? (.expr e :: rest) = some (parent, members) := by
    simp only [leadingClass?, bare]
  unfold ofClass
  rw [wrapped] at parsed
  rw [parsed]
  dsimp only
  rw [found]

theorem starts_with_class {source hook : String}
    (answered : ∀ complaint offset, ofClass source hook ≠ .error (.malformed complaint offset)) :
    ∃ e rest decorators name parent interfaces members,
      Script.parse (wrapped source) = .ok (.expr e :: rest) ∧
      e.bare = .classExpr decorators name parent interfaces members := by
  unfold ofClass at answered
  cases parsed : Script.parse (wrapped source) with
  | error fault =>
      rw [wrapped] at parsed
      rw [parsed] at answered
      exact absurd rfl (answered _ _)
  | ok items =>
      rw [wrapped] at parsed
      rw [parsed] at answered
      dsimp only at answered
      cases found : leadingClass? items with
      | none =>
          rw [found] at answered
          exact absurd rfl (answered _ _)
      | some pair =>
          obtain ⟨parent, members⟩ := pair
          obtain ⟨e, rest, decorators, name, interfaces, rfl, bare⟩ := leadingClass_eq_some found
          exact ⟨e, rest, decorators, name, parent, interfaces, members, rfl, bare⟩

/-- Where a text is not refused, the parentheses that it is put in hold a class and nothing else,
and this class alone decides the answer. What is read after them is dropped: the class is all that
was written only where the text is at its end there. -/
theorem leading_class_decides (source hook : String)
    (answered : ∀ complaint offset, ofClass source hook ≠ .error (.malformed complaint offset)) :
    ∃ start inner rest after decorators name parent interfaces members,
      Script.parse (wrapped source) = .ok (.expr (.paren (.placed start inner)) :: rest) ∧
      inner.bare = .classExpr decorators name parent interfaces members ∧
      ofClass source hook = ofMembers hook parent members ∧
      firstStatement (wrapped source) = .ok (.expr (.paren (.placed start inner)), after) ∧
      (rest = [] ↔
        after.current.token.lexeme = .finish ∧ after.current.token.comments = []) ∧
      ∀ other dropped,
        Script.parse (wrapped other) = .ok (.expr (.paren (.placed start inner)) :: dropped) →
        ofClass other hook = ofClass source hook := by
  obtain ⟨e, rest, decorators, name, parent, interfaces, members, parsed, bare⟩ :=
    starts_with_class answered
  have found : e.isClass = true := by rw [Term.isClass, bare]
  have answer := ofClass_leading hook parsed bare
  obtain ⟨text, opening⟩ := wrapped_eq source
  rw [opening] at parsed ⊢
  obtain ⟨after, first, last⟩ := Script.parse_opening parsed
  obtain ⟨start, inner, rfl⟩ := Script.firstStatement_enclosed first found
  refine ⟨start, inner, rest, after, decorators, name, parent, interfaces, members, parsed, bare,
    answer, first, last, ?_⟩
  intro other dropped same
  rw [answer]
  exact ofClass_leading hook same bare

def clickClass : String := "class \x7b onClick() \x7b\x7d \x7d"

theorem clickClass_decides :
    ofClass clickClass "onCreate" = .ok "\x7b onClick() \x7b\x7d \x7d" ∧
      ∃ start inner after,
        Script.parse (wrapped clickClass) = .ok [.expr (.paren (.placed start inner))] ∧
        inner.isClass = true ∧
        firstStatement (wrapped clickClass) = .ok (.expr (.paren (.placed start inner)), after) ∧
        after.current.token.lexeme = .finish := by
  have converted : ofClass clickClass "onCreate" = .ok "\x7b onClick() \x7b\x7d \x7d" := by
    decide +kernel
  have single : (Script.parse (wrapped clickClass)).toOption.map List.length = some 1 := by
    decide +kernel
  have answered : ∀ complaint offset,
      ofClass clickClass "onCreate" ≠ .error (.malformed complaint offset) := by
    intro complaint offset
    rw [converted]
    exact nofun
  obtain ⟨start, inner, rest, after, decorators, name, parent, interfaces, members, parsed, bare, -,
    first, last, -⟩ := leading_class_decides clickClass "onCreate" answered
  have alone : rest = [] := by
    rw [parsed] at single
    simpa [Except.toOption] using single
  refine ⟨converted, start, inner, after, alone ▸ parsed, ?_, first, (last.mp alone).1⟩
  rw [Term.isClass, bare]

/-- A text that closes the parentheses itself and goes on. What it goes on with is dropped. -/
def runningOn : String := "class \x7b\x7d); foo("

theorem runningOn_dropped :
    ofClass runningOn "onCreate" = .ok "\x7b\x7d" ∧
      (Script.parse (wrapped runningOn)).toOption.map List.length = some 2 := by
  decide +kernel

end Behavior

end TemplateWiring
