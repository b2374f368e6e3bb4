import TemplateWiring.Proofs.Walk.Sweep
import TemplateWiring.Roots

/-! Everything that the search for roots can do with one node. Facts about the search are proved
case by case from here. -/

namespace TemplateWiring

def Style.Reading.block? : Style.Reading → Option (String × List Char)
  | .block language code => some (language, code)
  | .plain | .unsupported _ => none

namespace Roots

def bindsItself (o : Options) (n : Node) : Bool :=
  n.kind == .element && Attr.has n.attrs o.legacyBindAttribute

def isIdentified (o : Options) (n : Node) : Bool :=
  n.kind == .element && !bindsItself o n && Attr.has n.attrs "id"

def isRoot (o : Options) (n : Node) : Bool :=
  match n.kind with
  | .custom => true
  | .element => !bindsItself o n && !n.isTag "style"
  | .root | .container | .other => false

/-- Language and code of the block that a style tag gives up. -/
def styleBlock? (o : Options) (n : Node) : Option (String × List Char) :=
  if n.kind == .element && !bindsItself o n && n.isTag "style" then (Style.read n).block? else none

def behavior? (o : Options) (n : Node) : Option String :=
  if n.kind == .other && n.isTag "class" then
    (Behavior.ofClass (n.opening.getD "") o.createHookName).toOption
  else none

def counted (s : Search) (n : Node) (id : Nat) : Roots :=
  s.roots.countId id (Attr.lookup? n.attrs "id")

inductive Step (s : Search) (n : Node) (id : Nat) : Visit Search Failure → Prop
  | wrapper (kind : n.kind.isWrapper = true) : Step s n id { state := s, verdict := .descend }
  | custom (kind : n.kind = .custom) :
      Step s n id { state := { s with roots := s.roots.add id }, verdict := .prune }
  | bound (kind : n.kind = .element) (own : bindsItself s.document.options n = true) :
      Step s n id
        { state := ⟨s.document.markBound, { s.roots with legacyBind := true }⟩, verdict := .prune }
  | element (kind : n.kind = .element) (free : bindsItself s.document.options n = false)
      (tag : n.isTag "style" = false) :
      Step s n id { state := ⟨s.document, (counted s n id).add id⟩, verdict := .prune }
  | plainStyle (kind : n.kind = .element) (free : bindsItself s.document.options n = false)
      (tag : n.isTag "style" = true) (reading : Style.read n = .plain) :
      Step s n id { state := ⟨s.document, counted s n id⟩, verdict := .prune }
  | refusedStyle (name : String) (kind : n.kind = .element)
      (free : bindsItself s.document.options n = false) (tag : n.isTag "style" = true)
      (reading : Style.read n = .unsupported name) :
      Step s n id
        { state := ⟨s.document.reportNode Code.styleAttribute
            ("Unsupported attribute on the component style tag: " ++ name) id n.pos,
            counted s n id⟩
          verdict := .prune }
  | takenStyle (language : String) (code : List Char) (kind : n.kind = .element)
      (free : bindsItself s.document.options n = false) (tag : n.isTag "style" = true)
      (reading : Style.read n = .block language code) :
      Step s n id
        { state := ⟨s.document.addDependency
            (.style (Style.dependency s.document language code)), counted s n id⟩
          detach := [id]
          verdict := .prune }
  | bystander (kind : n.kind = .other) (tag : n.isTag "class" = false) :
      Step s n id { state := s, verdict := .prune }
  | malformed (complaint : String) (offset : Option Nat) (kind : n.kind = .other)
      (tag : n.isTag "class" = true)
      (found : Behavior.ofClass (n.opening.getD "") s.document.options.createHookName =
        .error (.malformed complaint offset)) :
      Step s n id
        { state := ⟨Inline.reportMalformed s.document id n.pos complaint offset, s.roots⟩
          verdict := .prune }
  | derived (kind : n.kind = .other) (tag : n.isTag "class" = true)
      (found : Behavior.ofClass (n.opening.getD "") s.document.options.createHookName =
        .error .derived) :
      Step s n id
        { state := ⟨s.document.reportNode Code.classExtends Inline.derivedText id n.pos, s.roots⟩
          verdict := .prune }
  | fatal (failure : Failure) (kind : n.kind = .other) (tag : n.isTag "class" = true)
      (found : Behavior.ofClass (n.opening.getD "") s.document.options.createHookName =
        .error (.fatal failure)) :
      Step s n id { state := s, verdict := .fail failure }
  | conflict (object : String) (other : Module) (kind : n.kind = .other)
      (tag : n.isTag "class" = true)
      (found : Behavior.ofClass (n.opening.getD "") s.document.options.createHookName = .ok object)
      (taken : s.document.renderer = some other) :
      Step s n id
        { state := ⟨s.document.reportNode Code.inlineAndExternal (Inline.conflictText other) id
            n.pos, s.roots⟩
          verdict := .prune }
  | installed (object : String) (kind : n.kind = .other) (tag : n.isTag "class" = true)
      (found : Behavior.ofClass (n.opening.getD "") s.document.options.createHookName = .ok object)
      (free : s.document.renderer = none) :
      Step s n id
        { state := ⟨Inline.install s.document object, s.roots⟩, detach := [id], verdict := .prune }

theorem element_step (s : Search) (n : Node) (id : Nat) (kind : n.kind = .element) :
    Step s n id (visitElement s n id) := by
  have own : bindsItself s.document.options n =
      Attr.has n.attrs s.document.options.legacyBindAttribute := by simp [bindsItself, kind]
  rw [visitElement, ← own]
  cases binds : bindsItself s.document.options n with
  | true => exact .bound kind binds
  | false =>
      cases tag : n.isTag "style" with
      | false => exact .element kind binds tag
      | true =>
          rw [Style.extract]
          cases reading : Style.read n with
          | plain => exact .plainStyle kind binds tag reading
          | unsupported name => exact .refusedStyle name kind binds tag reading
          | block language code => exact .takenStyle language code kind binds tag reading

theorem other_step (s : Search) (n : Node) (id : Nat) (kind : n.kind = .other) :
    Step s n id (visitOther s n id) := by
  rw [visitOther]
  cases tag : n.isTag "class" with
  | false => exact .bystander kind tag
  | true =>
      rw [Inline.convert, Inline.convertTo.eq_def]
      cases found : Behavior.ofClass (n.opening.getD "") s.document.options.createHookName with
      | error refusal =>
          cases refusal with
          | malformed complaint offset => exact .malformed complaint offset kind tag found
          | derived => exact .derived kind tag found
          | fatal failure => exact .fatal failure kind tag found
      | ok object =>
          cases slot : s.document.renderer with
          | none => exact .installed object kind tag found slot
          | some other => exact .conflict object other kind tag found slot

theorem visit_step (s : Search) (t : Tree) (id : Nat) : Step s (t.node id) id (visit s t id) := by
  rw [visit]
  cases kind : (t.node id).kind with
  | root => exact .wrapper (by rw [kind]; rfl)
  | container => exact .wrapper (by rw [kind]; rfl)
  | element => exact element_step s _ id kind
  | custom => exact .custom kind
  | other => exact other_step s _ id kind

/-- The search looks at the node it is shown and goes on below wrappers. -/
theorem visit_local : Walk.Local NodeKind.isWrapper visit := by
  constructor
  · intro s t u id same
    have element_blind (n : Node) : visitElement s n id = visitElement s n.content id := rfl
    have other_blind (n : Node) : visitOther s n id = visitOther s n.content id := rfl
    have kind : (t.node id).kind = (u.node id).kind := congrArg (fun n => n.kind) same
    simp only [visit]
    rw [kind, element_blind, other_blind, same, ← element_blind, ← other_blind]
  · intro s t id wrapper
    cases kind : (t.node id).kind with
    | root => simp [visit, kind]
    | container => simp [visit, kind]
    | element => simp [kind, NodeKind.isWrapper] at wrapper
    | custom => simp [kind, NodeKind.isWrapper] at wrapper
    | other => simp [kind, NodeKind.isWrapper] at wrapper
  · intro s t id tagged
    have step := visit_step s t id
    generalize visit s t id = v at step
    cases step with
    | wrapper kind => simp [kind] at tagged
    | _ => simp
  · intro s t id other left
    have step := visit_step s t id
    generalize visit s t id = v at step left
    cases step with
    | takenStyle => simpa using left
    | installed => simpa using left
    | _ => simp at left

end Roots

end TemplateWiring
