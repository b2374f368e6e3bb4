import TemplateWiring.Proofs.Roots.Collection

namespace TemplateWiring.Roots

open TemplateWiring.Tree

/-- What one node gives up. Where it gives up nothing, the document may be marked or receive a
report, and stays as it is otherwise. -/
inductive Yield (s : Search) (n : Node) (id : Nat) (v : Visit Search Failure) : Prop
  | nothing (marked : Bool) (diagnostics : List Diagnostic)
      (style : styleBlock? s.document.options n = none)
      (object : s.document.renderer = none → behavior? s.document.options n = none)
      (detach : v.detach = [])
      (document : v.state.document =
        { s.document with marked := marked, diagnostics := diagnostics })
  | style (language : String) (code : List Char)
      (style : styleBlock? s.document.options n = some (language, code))
      (object : behavior? s.document.options n = none)
      (detach : v.detach = [id])
      (document : v.state.document =
        s.document.addDependency (.style (Style.dependency s.document language code)))
  | object (text : String)
      (style : styleBlock? s.document.options n = none)
      (object : behavior? s.document.options n = some text)
      (vacant : s.document.renderer = none)
      (detach : v.detach = [id])
      (document : v.state.document = Inline.install s.document text)

theorem styleBlock?_of_kind {o : Options} {n : Node} (kind : n.kind ≠ .element) :
    styleBlock? o n = none := by
  simp [styleBlock?, kind]

theorem behavior?_of_kind {o : Options} {n : Node} (kind : n.kind ≠ .other) :
    behavior? o n = none := by
  simp [behavior?, kind]

theorem styleBlock?_of_reading {o : Options} {n : Node} {reading : Style.Reading}
    (kind : n.kind = .element) (free : bindsItself o n = false) (tag : n.isTag "style" = true)
    (found : Style.read n = reading) :
    styleBlock? o n = reading.block? := by
  rw [styleBlock?, found, kind, free, tag]
  rfl

theorem behavior?_of_class {o : Options} {n : Node} {object : Except Behavior.Refusal String}
    (kind : n.kind = .other) (tag : n.isTag "class" = true)
    (found : Behavior.ofClass (n.opening.getD "") o.createHookName = object) :
    behavior? o n = object.toOption := by
  rw [behavior?, found, kind, tag]
  rfl

theorem step_yield {s : Search} {n : Node} {id : Nat} {v : Visit Search Failure}
    (step : Step s n id v) : Yield s n id v := by
  have quiet (marked : Bool) (diagnostics : List Diagnostic)
      (style : styleBlock? s.document.options n = none)
      (object : behavior? s.document.options n = none) (detach : v.detach = [])
      (document : v.state.document =
        { s.document with marked := marked, diagnostics := diagnostics }) : Yield s n id v :=
    .nothing marked diagnostics style (fun _ => object) detach document
  cases step with
  | wrapper kind =>
      have untagged (tag : NodeKind) (tagged : tag.isWrapper = false) : n.kind ≠ tag := by
        intro same
        rw [same, tagged] at kind
        cases kind
      exact quiet _ _ (styleBlock?_of_kind (untagged .element rfl))
        (behavior?_of_kind (untagged .other rfl)) rfl rfl
  | custom kind =>
      exact quiet _ _ (styleBlock?_of_kind (by simp [kind])) (behavior?_of_kind (by simp [kind]))
        rfl rfl
  | bound kind own =>
      exact quiet _ _ (by simp [styleBlock?, own]) (behavior?_of_kind (by simp [kind])) rfl rfl
  | element kind free tag =>
      exact quiet _ _ (by simp [styleBlock?, tag]) (behavior?_of_kind (by simp [kind])) rfl rfl
  | plainStyle kind free tag reading =>
      exact quiet _ _ (styleBlock?_of_reading kind free tag reading)
        (behavior?_of_kind (by simp [kind])) rfl rfl
  | refusedStyle name kind free tag reading =>
      exact quiet _ _ (styleBlock?_of_reading kind free tag reading)
        (behavior?_of_kind (by simp [kind])) rfl rfl
  | takenStyle language code kind free tag reading =>
      exact .style language code (styleBlock?_of_reading kind free tag reading)
        (behavior?_of_kind (by simp [kind])) rfl rfl
  | bystander kind tag =>
      exact quiet _ _ (styleBlock?_of_kind (by simp [kind])) (by simp [behavior?, tag]) rfl rfl
  | malformed complaint offset kind tag found =>
      have style := styleBlock?_of_kind (o := s.document.options) (n := n) (by simp [kind])
      cases offset <;> exact quiet _ _ style (behavior?_of_class kind tag found) rfl rfl
  | derived kind tag found =>
      exact quiet _ _ (styleBlock?_of_kind (by simp [kind])) (behavior?_of_class kind tag found)
        rfl rfl
  | fatal failure kind tag found =>
      exact quiet _ _ (styleBlock?_of_kind (by simp [kind])) (behavior?_of_class kind tag found)
        rfl rfl
  | conflict object other kind tag found taken =>
      refine .nothing _ _ (styleBlock?_of_kind (by simp [kind])) ?_ rfl rfl
      intro vacant
      rw [vacant] at taken
      cases taken
  | installed object kind tag found vacant =>
      exact .object object (styleBlock?_of_kind (by simp [kind]))
        (behavior?_of_class kind tag found) vacant rfl rfl

theorem sweep_keeps {P : Document → Prop}
    (each : ∀ s n id v, Yield s n id v → P s.document → P v.state.document)
    (t : Tree) (ids : List Nat) (s : Search) (gone : List Nat) (holds : P s.document) :
    P (Walk.sweep visit t s gone ids).state.document := by
  induction ids generalizing s gone with
  | nil => exact holds
  | cons id rest ih =>
      have kept := each s _ id _ (step_yield (visit_step s t id)) holds
      rw [Walk.sweep]
      cases (visit s t id).verdict with
      | fail e => exact kept
      | prune => exact ih _ _ kept
      | descend => exact ih _ _ kept

/-- The first class of a list of nodes that can become the renderer of a document without one. -/
def inlineClass? (d : Document) (t : Tree) (ids : List Nat) : Option Nat :=
  if d.renderer.isNone then ids.find? fun id => (behavior? d.options (t.node id)).isSome else none

def styleTags (o : Options) (t : Tree) (ids : List Nat) : List Nat :=
  ids.filter fun id => (styleBlock? o (t.node id)).isSome

def styleDependency? (d : Document) (n : Node) : Option Dependency :=
  (styleBlock? d.options n).map fun block => .style (Style.dependency d block.1 block.2)

def styleDependencies (d : Document) (t : Tree) (ids : List Nat) : List Dependency :=
  ids.filterMap fun id => styleDependency? d (t.node id)

/-- What a search of a list of nodes has taken out and written down. -/
structure Leaving (t : Tree) (d : Document) (gone ids : List Nat)
    (w : Walk.Swept Search Failure) : Prop where
  gone : ∀ id, id ∈ w.gone ↔
    id ∈ gone ∨ id ∈ styleTags d.options t ids ∨ inlineClass? d t ids = some id
  dependencies : w.state.document.dependencies =
    d.dependencies ++ styleDependencies d t ids
  constants : w.state.document.constants.length =
    d.constants.length + (inlineClass? d t ids).toList.length

section cons

variable {d : Document} {t : Tree} {id : Nat} {rest : List Nat}

theorem styleTags_skip (style : styleBlock? d.options (t.node id) = none) :
    styleTags d.options t (id :: rest) = styleTags d.options t rest := by
  simp [styleTags, style]

theorem styleDependencies_skip (style : styleBlock? d.options (t.node id) = none) :
    styleDependencies d t (id :: rest) = styleDependencies d t rest := by
  simp [styleDependencies, styleDependency?, style]

theorem styleTags_take {block : String × List Char}
    (style : styleBlock? d.options (t.node id) = some block) :
    styleTags d.options t (id :: rest) = id :: styleTags d.options t rest := by
  simp [styleTags, style]

theorem styleDependencies_take {language : String} {code : List Char}
    (style : styleBlock? d.options (t.node id) = some (language, code)) :
    styleDependencies d t (id :: rest) =
      .style (Style.dependency d language code) :: styleDependencies d t rest := by
  simp [styleDependencies, styleDependency?, style]

theorem inlineClass?_skip (object : d.renderer = none → behavior? d.options (t.node id) = none) :
    inlineClass? d t (id :: rest) = inlineClass? d t rest := by
  cases slot : d.renderer with
  | none => simp [inlineClass?, slot, object slot]
  | some other => simp [inlineClass?, slot]

theorem inlineClass?_take {text : String} (vacant : d.renderer = none)
    (object : behavior? d.options (t.node id) = some text) :
    inlineClass? d t (id :: rest) = some id := by
  simp [inlineClass?, vacant, object]

end cons

theorem Leaving.cons {s : Search} {t : Tree} {id : Nat} {v : Visit Search Failure}
    {gone rest : List Nat} {w : Walk.Swept Search Failure} (yield : Yield s (t.node id) id v)
    (later : Leaving t v.state.document (gone ++ v.detach) rest w) :
    Leaving t s.document gone (id :: rest) w := by
  obtain ⟨gone_later, dependencies, constants⟩ := later
  cases yield with
  | nothing marked diagnostics style object detach document =>
      rw [document] at gone_later dependencies constants
      rw [detach, List.append_nil] at gone_later
      constructor
      · rw [styleTags_skip style, inlineClass?_skip object]
        exact gone_later
      · rw [styleDependencies_skip style]
        exact dependencies
      · rw [inlineClass?_skip object]
        exact constants
  | style language code style object detach document =>
      rw [document] at gone_later dependencies constants
      rw [detach] at gone_later
      have first : inlineClass? s.document t (id :: rest) = inlineClass? s.document t rest :=
        inlineClass?_skip (fun _ => object)
      constructor
      · intro other
        rw [styleTags_take style, first, List.mem_cons, gone_later other, List.mem_append,
          List.mem_singleton, or_assoc, or_assoc]
        exact Iff.rfl
      · rw [styleDependencies_take style, List.append_cons]
        exact dependencies
      · rw [first]
        exact constants
  | object text style object vacant detach document =>
      rw [document] at gone_later dependencies constants
      rw [detach] at gone_later
      -- From here on a renderer is known, and no other class goes.
      have filled : inlineClass? (Inline.install s.document text) t rest = none := rfl
      rw [filled] at gone_later constants
      constructor
      · intro other
        have same : some id = some other ↔ other = id := by simp [eq_comm]
        rw [styleTags_skip style, inlineClass?_take vacant object, gone_later other,
          List.mem_append, List.mem_singleton, same, or_assoc]
        simp only [reduceCtorEq, or_false]
        rw [or_comm (a := other = id)]
        exact Iff.rfl
      · rw [styleDependencies_skip style]
        exact dependencies
      · rw [inlineClass?_take vacant object, constants]
        simp [Inline.install, Document.addConstant]

theorem sweep_leaving {t : Tree} (ids : List Nat) (s : Search) (gone : List Nat)
    (ok : (Walk.sweep visit t s gone ids).error = none) :
    Leaving t s.document gone ids (Walk.sweep visit t s gone ids) := by
  induction ids generalizing s gone with
  | nil =>
      constructor
      · simp [Walk.sweep, styleTags, inlineClass?]
      · simp [Walk.sweep, styleDependencies]
      · simp [Walk.sweep, inlineClass?]
  | cons id rest ih =>
      have unfolded := Walk.sweep_cons s gone id rest ok
      rw [unfolded] at ok ⊢
      exact (ih _ _ ok).cons (step_yield (visit_step s t id))

theorem not_root_of_styleBlock {o : Options} {n : Node} (block : (styleBlock? o n).isSome) :
    n.kind.isWrapper = false ∧ isRoot o n = false := by
  rw [styleBlock?] at block
  split at block
  next held =>
    simp only [Bool.and_eq_true, beq_iff_eq] at held
    simp [held, NodeKind.isWrapper, isRoot]
  next => cases block

theorem not_root_of_behavior {o : Options} {n : Node} (object : (behavior? o n).isSome) :
    n.kind.isWrapper = false ∧ isRoot o n = false := by
  rw [behavior?] at object
  split at object
  next held =>
    simp only [Bool.and_eq_true, beq_iff_eq] at held
    simp [held.1, NodeKind.isWrapper, isRoot]
  next => cases object

theorem Leaving.not_root {t : Tree} {d : Document} {ids : List Nat}
    {w : Walk.Swept Search Failure} (leaving : Leaving t d [] ids w) {id : Nat}
    (left : id ∈ w.gone) :
    id ∈ ids ∧ (t.node id).kind.isWrapper = false ∧ isRoot d.options (t.node id) = false := by
  rcases (leaving.gone id).mp left with old | style | class_
  · cases old
  · obtain ⟨member, block⟩ := List.mem_filter.mp style
    exact ⟨member, not_root_of_styleBlock block⟩
  · rw [inlineClass?] at class_
    split at class_
    · have object : (behavior? d.options (t.node id)).isSome = true := by
        simpa using List.find?_some class_
      exact ⟨List.mem_of_find?_eq_some class_, not_root_of_behavior object⟩
    · cases class_

end TemplateWiring.Roots
