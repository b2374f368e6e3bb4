import TemplateWiring.Proofs.Wiring.Bound

/-! When several roots are too ambiguous to be bound. What counts is the elements of the frontier
that have an `id`, style tags among them, and not the roots that have one. -/

namespace TemplateWiring.Wiring

open TemplateWiring.Tree

variable {folder : Folder} {t : Tree} {d : Document} {roots : Roots} {decision : Decision}

theorem identified_iff {o : Options} {ids : List Nat}
    (own : (Roots.gather o t ids).legacyBind = false) :
    0 < (Roots.gather o t ids).idCount ↔
      ∃ id ∈ ids, (t.node id).kind = .element ∧ t.hasAttr id "id" = true := by
  change 0 < (Roots.identified o t ids).length ↔ _
  rw [List.length_pos_iff_exists_mem]
  constructor
  · rintro ⟨id, found⟩
    obtain ⟨member, named⟩ := List.mem_filter.mp found
    simp only [Roots.isIdentified, Bool.and_eq_true, beq_iff_eq] at named
    exact ⟨id, member, named.1.1, named.2⟩
  · rintro ⟨id, member, kind, named⟩
    have free : Roots.bindsItself o (t.node id) = false := by
      simpa using List.any_eq_false.mp own id member
    refine ⟨id, List.mem_filter.mpr ⟨member, ?_⟩⟩
    rw [Roots.isIdentified, kind, free]
    exact named

/-- Several roots of a document that has a component are refused if and only if an element of the
frontier has an `id`. They are then left as they are, and bound otherwise. -/
theorem several_roots_decided (folder : Folder) (t : Tree) (d : Document) (built : Reachable t)
    (roots : Roots) (decision : Decision)
    (done : (run folder t d).report = .ok (.completed roots decision))
    (own : roots.legacyBind = false) (ready : (run folder t d).document.isBound = true)
    (several : 2 ≤ roots.nodes.length) :
    (decision = .ambiguousIds ↔
        ∃ id ∈ t.frontier, (t.node id).kind = .element ∧ t.hasAttr id "id" = true) ∧
      (decision = .ambiguousIds → ∀ id, ((run folder t d).tree.node id).attrs = (t.node id).attrs) ∧
      (decision ≠ .ambiguousIds → ∃ keys, decision = .bound roots.nodes.length keys) := by
  have wf := wellFormed_of_reachable built
  obtain ⟨base, scanned, swept, completed⟩ := run_completed wf done
  have gathered := completed.gathered
  rw [gathered] at own
  have named := identified_iff own
  rw [← gathered] at own named
  have ruling := completed.ruling
  generalize (run folder t d).tree = tree at ruling ⊢
  generalize (run folder t d).document = document at ruling ready
  cases ruling with
  | explicit legacy => simp [own] at legacy
  | unbound _ bare => simp [ready] at bare
  | rootless _ _ none => simp [none] at several
  | ambiguous _ _ _ counted =>
      have found := named.mp counted
      have kept (id : Nat) : ((t.detachAll swept.gone).node id).attrs = (t.node id).attrs :=
        attrs_detachAll t swept.gone id
      exact ⟨⟨fun _ => found, fun _ => rfl⟩, fun _ => kept, fun other => absurd rfl other⟩
  | bound _ _ _ clear tree keys =>
      have unnamed : ¬ 0 < roots.idCount := by omega
      refine ⟨⟨?_, ?_⟩, ?_, fun _ => ⟨keys, rfl⟩⟩
      · exact fun other => nomatch other
      · exact fun found => absurd (named.mpr found) unnamed
      · exact fun other => nomatch other

def identifiedPage : Template :=
  .root [
    .element .html "style" [⟨"id", .text "look"⟩] [] 0 none,
    .container [.element .custom "app-tab" [] [] 22 none] 20,
    .element .html "p" [⟨"ref", .bare⟩] [] 40 none]

theorem identifiedPage_decided :
    let w := run (Folder.ofPaths ["component.js"]) (ofTemplate identifiedPage)
      { filename := "index.marko" }
    w.report = .ok (.completed
        { nodes := [3, 4], idCount := 1, idNode := some 1, id := some (.text "look") }
        .ambiguousIds) ∧
      ∀ id, (w.tree.node id).attrs = ((ofTemplate identifiedPage).node id).attrs := by
  intro w
  have ok : (Walk.sweep Roots.visit (ofTemplate identifiedPage) { document := besideComponent } []
      [0, 1, 2, 3, 4]).error = none := by decide +kernel
  have run_eq := run_beside_component identifiedPage rfl ok
  have report : w.report = .ok (.completed
      { nodes := [3, 4], idCount := 1, idNode := some 1, id := some (.text "look") }
      .ambiguousIds) := by
    simp only [w, run_eq]
    exact congrArg Except.ok (by decide +kernel)
  have ready : w.document.isBound = true := by
    simp only [w, run_eq]
    decide +kernel
  obtain ⟨-, kept, -⟩ := several_roots_decided _ _ _ (reachable_ofTemplate identifiedPage) _ _
    report rfl ready (by decide)
  exact ⟨report, kept rfl⟩

def namedTags : Template :=
  .root [
    .element .custom "app-tab" [⟨"id", .text "main"⟩] [] 0 none,
    .element .custom "app-tab" [] [] 25 none]

/-- The `id` of a root counts for nothing where the root is a custom tag. -/
theorem namedTags_bound :
    let w := run (Folder.ofPaths ["component.js"]) (ofTemplate namedTags)
      { filename := "index.marko" }
    w.report = .ok (.completed { nodes := [1, 2] } (.bound 2 ["_r0", "_r1"])) ∧
      w.document.isBound = true ∧ (ofTemplate namedTags).hasAttr 1 "id" = true := by
  intro w
  have ok : (Walk.sweep Roots.visit (ofTemplate namedTags) { document := besideComponent } []
      [0, 1, 2]).error = none := by decide +kernel
  simp only [w, run_beside_component namedTags rfl ok]
  exact ⟨congrArg Except.ok (by decide +kernel), by decide +kernel, by decide +kernel⟩

end TemplateWiring.Wiring
