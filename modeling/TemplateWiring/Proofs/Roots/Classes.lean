import TemplateWiring.Proofs.Roots.Leavers

/-! What the inline classes of a document come to. The first that breaks a rule of the language of
components ends the search; of the others, the first that becomes an object is installed where no
renderer is known. -/

namespace TemplateWiring

def Document.slots (d : Document) : Option Module × Option Module × List Constant :=
  (d.component, d.renderer, d.constants)

namespace Roots

open TemplateWiring.Tree

def failure? : Except Behavior.Refusal String → Option Failure
  | .error (.fatal failure) => some failure
  | _ => none

def fatal? (o : Options) (n : Node) : Option Failure :=
  if n.kind == .other && n.isTag "class" then
    failure? (Behavior.ofClass (n.opening.getD "") o.createHookName)
  else none

theorem fatal?_of_kind {o : Options} {n : Node} (kind : n.kind ≠ .other) : fatal? o n = none := by
  simp [fatal?, kind]

theorem fatal?_of_class {o : Options} {n : Node} {object : Except Behavior.Refusal String}
    (kind : n.kind = .other) (tag : n.isTag "class" = true)
    (found : Behavior.ofClass (n.opening.getD "") o.createHookName = object) :
    fatal? o n = failure? object := by
  rw [fatal?, found, kind, tag]
  rfl

theorem verdict_step {s : Search} {n : Node} {id : Nat} {v : Visit Search Failure}
    (step : Step s n id v) : match v.verdict with
      | .fail failure => fatal? s.document.options n = some failure
      | .prune | .descend => fatal? s.document.options n = none := by
  cases step with
  | wrapper kind =>
      apply fatal?_of_kind
      intro other
      simp [other, NodeKind.isWrapper] at kind
  | custom kind => exact fatal?_of_kind (by simp [kind])
  | bound kind => exact fatal?_of_kind (by simp [kind])
  | element kind => exact fatal?_of_kind (by simp [kind])
  | plainStyle kind => exact fatal?_of_kind (by simp [kind])
  | refusedStyle _ kind => exact fatal?_of_kind (by simp [kind])
  | takenStyle _ _ kind => exact fatal?_of_kind (by simp [kind])
  | bystander kind tag => simp [fatal?, tag]
  | malformed _ _ kind tag found => exact fatal?_of_class kind tag found
  | derived kind tag found => exact fatal?_of_class kind tag found
  | fatal _ kind tag found => exact fatal?_of_class kind tag found
  | conflict _ _ kind tag found => exact fatal?_of_class kind tag found
  | installed _ kind tag found => exact fatal?_of_class kind tag found

theorem sweep_error (t : Tree) (ids : List Nat) (s : Search) (gone : List Nat) :
    (Walk.sweep visit t s gone ids).error =
      (ids.map t.node).findSome? (fatal? s.document.options) := by
  induction ids generalizing s gone with
  | nil => rfl
  | cons id rest ih =>
      have step := visit_step s t id
      have kept := options_step step
      have own := verdict_step step
      rw [Walk.sweep, List.map_cons, List.findSome?_cons]
      cases verdict : (visit s t id).verdict with
      | fail failure =>
          rw [verdict] at own
          dsimp only at own ⊢
          rw [own]
      | prune =>
          rw [verdict] at own
          dsimp only at own ⊢
          rw [own, ih, kept]
      | descend =>
          rw [verdict] at own
          dsimp only at own ⊢
          rw [own, ih, kept]

/-- The document with the first of some classes installed that becomes an object, where it has no
renderer yet. -/
def installFirst (d : Document) (ns : List Node) : Document :=
  match d.renderer with
  | some _ => d
  | none =>
    match ns.findSome? (behavior? d.options) with
    | some object => Inline.install d object
    | none => d

theorem installFirst_taken {d : Document} {other : Module} (taken : d.renderer = some other)
    (ns : List Node) : installFirst d ns = d := by
  rw [installFirst, taken]

theorem installFirst_skip {d : Document} {n : Node}
    (object : d.renderer = none → behavior? d.options n = none) (ns : List Node) :
    installFirst d (n :: ns) = installFirst d ns := by
  cases slot : d.renderer with
  | none => rw [installFirst, installFirst, List.findSome?_cons, object slot]
  | some other => rw [installFirst_taken slot, installFirst_taken slot]

theorem slots_installFirst (d : Document) (marked : Bool) (dependencies : List Dependency)
    (diagnostics : List Diagnostic) (ns : List Node) :
    (installFirst { d with
        marked := marked, dependencies := dependencies, diagnostics := diagnostics } ns).slots =
      (installFirst d ns).slots := by
  cases slot : d.renderer with
  | some other => simp [installFirst, Document.slots, slot]
  | none =>
      cases found : ns.findSome? (behavior? d.options) with
      | some object =>
          simp [installFirst, slot, found, Document.slots, Inline.install, Inline.module,
            Document.addConstant, Document.basename]
      | none => simp [installFirst, slot, found, Document.slots]

theorem sweep_slots (t : Tree) (ids : List Nat) (s : Search) (gone : List Nat)
    (ok : (Walk.sweep visit t s gone ids).error = none) :
    (Walk.sweep visit t s gone ids).state.document.slots =
      (installFirst s.document (ids.map t.node)).slots := by
  induction ids generalizing s gone with
  | nil => cases slot : s.document.renderer <;> simp [Walk.sweep, installFirst, slot]
  | cons id rest ih =>
      have yield := step_yield (visit_step s t id)
      have unfolded := Walk.sweep_cons s gone id rest ok
      rw [unfolded] at ok ⊢
      rw [ih _ _ ok, List.map_cons]
      cases yield with
      | nothing marked diagnostics style object detach document =>
          rw [document, installFirst_skip object]
          exact slots_installFirst s.document marked s.document.dependencies diagnostics _
      | style language code style object detach document =>
          rw [document, installFirst_skip (fun _ => object)]
          exact slots_installFirst s.document s.document.marked _ s.document.diagnostics _
      | object text style object vacant detach document =>
          have first : installFirst s.document (t.node id :: rest.map t.node) =
              Inline.install s.document text := by
            rw [installFirst, vacant, List.findSome?_cons, object]
          -- A renderer is known from here on.
          rw [document, first]
          exact congrArg Document.slots (installFirst_taken rfl _)

end Roots

end TemplateWiring
