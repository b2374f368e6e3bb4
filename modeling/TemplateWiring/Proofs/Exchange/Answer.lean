import TemplateWiring.Exchange.Pass
import TemplateWiring.Proofs.Sibling.Precedence
import TemplateWiring.Proofs.Wiring.Slots

namespace TemplateWiring

namespace Answer

/-- Nothing but the template, as it comes out where nothing is done to it. -/
structure Untouched (a : Answer) (t : Template) : Prop where
  tree : a.tree = (Tree.ofTemplate t).toTemplate
  component : a.component = none
  renderer : a.renderer = none
  dependencies : a.dependencies = []
  constants : a.constants = []
  diagnostics : a.diagnostics = []

structure Coherent (a : Answer) (o : Options) : Prop where
  single : a.constants.length ≤ 1
  pooled : a.constants.length = 1 ↔ ∃ m, a.renderer = some m ∧ m.isInline = true
  named : ∀ m, a.renderer = some m → m.isInline = true →
    ∃ source filename requirePath,
      a.constants = [⟨o.componentConstantName, source⟩] ∧
        m = .inline o.componentConstantName filename requirePath
  shared : ∀ m, a.component = some m → m.isInline = true → a.renderer = some m
  backed : a.renderer ≠ none → a.component ≠ none
  unbound : a.binding = some .noBoundComponent → a.component = none ∧ a.renderer = none
  ready : a.binding = some .noRootNodes ∨ a.binding = some .ambiguousIds ∨
    (∃ rootCount keys, a.binding = some (.bound rootCount keys)) → a.component ≠ none

open Document

theorem coherent_ofWiring (t : Tree) {d : Document} (roots : Roots) {decision : Decision}
    (settled : d.Settled) (told : Binding.Told d decision) :
    Coherent (ofWiring t d (.completed roots decision)) d.options := by
  have backed := settled.backed
  constructor
  case single =>
    rcases settled with external | pooled
    · simp [ofWiring, external.unpooled]
    · obtain ⟨source, constants⟩ := pooled.constants
      simp [ofWiring, constants]
  case pooled =>
    rcases settled with external | pooled
    · constructor
      · intro one
        simp [ofWiring, external.unpooled] at one
      · rintro ⟨m, slot, inline⟩
        rw [external.renderer m slot] at inline
        cases inline
    · obtain ⟨source, constants⟩ := pooled.constants
      constructor
      · exact fun _ => ⟨_, pooled.renderer, rfl⟩
      · intro _
        simp [ofWiring, constants]
  case named =>
    intro m slot inline
    rcases settled with external | pooled
    · rw [external.renderer m slot] at inline
      cases inline
    · obtain ⟨source, constants⟩ := pooled.constants
      cases slot.symm.trans pooled.renderer
      exact ⟨source, d.filename, _, constants, rfl⟩
  case shared =>
    intro m slot inline
    rcases settled with external | pooled
    · rw [external.component m slot] at inline
      cases inline
    · obtain ⟨other, held, equal⟩ := pooled.component
      cases held.symm.trans slot
      exact equal inline
  case backed => exact fun present absent => present (backed absent)
  case unbound =>
    intro decided
    have absent := told.unbound (Option.some.inj decided)
    exact ⟨absent, backed absent⟩
  case ready =>
    intro decided
    apply told.bound
    rcases decided with decided | decided | ⟨rootCount, keys, decided⟩
    · exact .inl (Option.some.inj decided)
    · exact .inr (.inl (Option.some.inj decided))
    · exact .inr (.inr ⟨rootCount, keys, Option.some.inj decided⟩)

end Answer

namespace Request

theorem run_answer {folder : Folder} {r : Request} {a : Answer} (ran : r.run folder = .ok a) :
    let w := Wiring.run folder (Tree.ofTemplate r.tree)
      { filename := r.filename, options := r.options }
    ∃ report, w.report = .ok report ∧ a = Answer.ofWiring w.tree w.document report := by
  dsimp only [run] at ran
  split at ran
  next => cases ran
  next report ended =>
    cases ran
    exact ⟨report, ended, rfl⟩

theorem run_of_sweep {folder : Folder} {r : Request} {base : String} {scanned : Document}
    {ids : List Nat}
    (named : Sibling.baseName? r.filename r.options.templateExtension = some base)
    (scan : Sibling.scan folder base { filename := r.filename, options := r.options } = .ok scanned)
    (frontier : (Tree.ofTemplate r.tree).frontier = ids)
    (ok : (Walk.sweep Roots.visit (Tree.ofTemplate r.tree) { document := scanned } [] ids).error =
      none) :
    let swept := Walk.sweep Roots.visit (Tree.ofTemplate r.tree) { document := scanned } [] ids
    let bound := Binding.bind ((Tree.ofTemplate r.tree).detachAll swept.gone)
      swept.state.document swept.state.roots
    r.run folder =
      .ok (Answer.ofWiring bound.1 bound.2.1 (.completed swept.state.roots bound.2.2)) := by
  intro swept bound
  have wf := Tree.wellFormed_of_reachable (Tree.reachable_ofTemplate r.tree)
  have wired := Wiring.run_of_sweep (d := { filename := r.filename, options := r.options })
    wf named scan frontier ok
  simp only [run, wired]
  rfl

/-- A document without a base name is answered alike over every folder. -/
theorem run_nameless (folder : Folder) {r : Request}
    (nameless : Sibling.baseName? r.filename r.options.templateExtension = none) :
    r.run folder = .ok { tree := (Tree.ofTemplate r.tree).toTemplate, skipped := true } := by
  simp only [run, Wiring.run, nameless]
  rfl

/-- An answer that was skipped holds the template alone, whatever the folder; any other holds slots,
constants and a decision that fit together. -/
theorem answer_coherent (folder : Folder) (text : String) (a : Answer)
    (ran : runText folder text = .ok a) :
    ∃ r, Json.decodeText decode text = .ok r ∧
      (a.skipped = true ↔ a.binding = none) ∧
      (a.skipped = true → a.Untouched r.tree ∧ ∀ other, runText other text = .ok a) ∧
      (a.skipped = false → a.Coherent r.options) := by
  cases decoded : Json.decodeText decode text with
  | error p =>
      rw [runText, decoded] at ran
      cases ran
  | ok r =>
      have through (other : Folder) : runText other text = r.run other := by
        rw [runText, decoded]
      rw [through] at ran
      refine ⟨r, rfl, ?_⟩
      obtain ⟨report, ended, answer⟩ := run_answer ran
      cases report with
      | skipped =>
          have nameless := Wiring.nameless_of_skipped ended
          rw [run_nameless folder nameless] at ran
          cases ran
          have alike (other : Folder) : runText other text =
              .ok { tree := (Tree.ofTemplate r.tree).toTemplate, skipped := true } := by
            rw [through, run_nameless other nameless]
          refine ⟨Iff.intro (fun _ => rfl) (fun _ => rfl), fun _ => ⟨?_, alike⟩, ?_⟩
          · exact ⟨rfl, rfl, rfl, rfl, rfl, rfl⟩
          · exact fun kept => nomatch kept
      | completed roots decision =>
          have wf := Tree.wellFormed_of_reachable (Tree.reachable_ofTemplate r.tree)
          obtain ⟨settled, options, told⟩ := Wiring.run_settled wf ended
          rw [answer]
          refine ⟨by simp [Answer.ofWiring], (fun skipped => nomatch skipped), fun _ => ?_⟩
          have coherent := Answer.coherent_ofWiring (Wiring.run folder (Tree.ofTemplate r.tree)
            { filename := r.filename, options := r.options }).tree roots settled told
          rw [options] at coherent
          exact coherent

def classFolder : Folder := Folder.ofPaths ["/srv/ui/index.component-browser.js"] "/srv/site"

def classText : String :=
  "\x7b\"filename\": \"../ui/index.marko\", \"tree\": " ++
    "\x7b\"type\": \"Other\", \"tagName\": \"class\", \"tagString\": \"class \x7b\x7d\"\x7d\x7d"

def classRequest : Request where
  filename := "../ui/index.marko"
  tree := .other (some "class") (some "class \x7b\x7d") [] 0

theorem classText_answer_coherent :
    ∃ a, runText classFolder classText = .ok a ∧ a.skipped = false ∧ a.constants.length = 1 ∧
      a.component = some (.file "../ui/index.component-browser.js" "./index.component-browser") ∧
      a.Coherent {} := by
  let scanned : Document :=
    { filename := "../ui/index.marko",
      component := some (.file "../ui/index.component-browser.js" "./index.component-browser") }
  have decoded : Json.decodeText decode classText = .ok classRequest := by cbv
  have frontier : (Tree.ofTemplate classRequest.tree).frontier = [0, 1] :=
    (Tree.frontier_ofTemplate classRequest.tree).trans (by decide +kernel)
  have named : Sibling.baseName? "../ui/index.marko" ({} : Options).templateExtension = some "index" := by
    decide +kernel
  have folder : Document.folder { filename := "../ui/index.marko" } = "../ui" := by decide +kernel
  have readable : classFolder.list (Document.folder { filename := "../ui/index.marko" }) =
      .ok ["index.component-browser.js"] := by
    have found : classFolder.locate "../ui".toList = .ok ["srv".toList, "ui".toList] := by decide +kernel
    rw [folder]
    exact Folder.list_eq found (by decide +kernel) (by decide +kernel)
  have scan : Sibling.scan classFolder "index" { filename := "../ui/index.marko" } = .ok scanned := by
    rw [Sibling.scan_eq "index" readable]
    exact congrArg Except.ok (by decide +kernel)
  have ok : (Walk.sweep Roots.visit (Tree.ofTemplate classRequest.tree) { document := scanned } []
      [0, 1]).error = none := by decide +kernel
  have answered : runText classFolder classText = classRequest.run classFolder := by
    rw [runText, decoded]
  have ran := answered.trans (run_of_sweep named scan frontier ok)
  obtain ⟨r, same, _, _, coherent⟩ := answer_coherent classFolder classText _ ran
  cases decoded.symm.trans same
  refine ⟨_, ran, rfl, ?_, ?_, coherent rfl⟩
  · decide +kernel
  · decide +kernel

end Request

end TemplateWiring
