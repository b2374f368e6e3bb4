import TemplateWiring.Proofs.Roots.Classes
import TemplateWiring.Proofs.Wiring.Keys

namespace TemplateWiring

open TemplateWiring.Tree

structure Told where
  decision : Decision
  component : Option Module
  renderer : Option Module
  dependencies : List Dependency
  constants : List Constant
  deriving DecidableEq, Repr

namespace Roots

def decided (o : Options) (ready : Bool) (ns : List Node) : Decision :=
  let roots := ns.filter (isRoot o)
  let several := decide (1 < roots.length)
  if ns.any (bindsItself o) then .legacyExplicitBind
  else if !ready then .noBoundComponent
  else if roots = [] then .noRootNodes
  else if several && ns.any (isIdentified o) then .ambiguousIds
  else .bound roots.length
    ((List.range' 0 (Binding.receiverCount o several roots)).map (Binding.keyText o))

/-- What is told of a document with its siblings known, where no class ends the search. -/
def foretold (d : Document) (ns : List Node) : Told :=
  let wired := installFirst d ns
  { decision := decided d.options (d.marked || wired.component.isSome) ns
    component := wired.component
    renderer := wired.renderer
    dependencies := d.dependencies ++ ns.filterMap (styleDependency? d)
    constants := wired.constants }

theorem roots_gather (o : Options) (t : Tree) (ids : List Nat) :
    (gather o t ids).nodes.map t.node = (ids.map t.node).filter (isRoot o) := by
  rw [List.filter_map]
  rfl

theorem identified_pos (o : Options) (t : Tree) (ids : List Nat) :
    decide (0 < (gather o t ids).idCount) = (ids.map t.node).any (isIdentified o) := by
  change decide (0 < (ids.filter fun id => isIdentified o (t.node id)).length) = _
  rw [← List.countP_eq_length_filter, List.any_map]
  rw [Bool.eq_iff_iff, decide_eq_true_iff, List.countP_pos_iff, List.any_eq_true]
  rfl

/-- An element that binds itself settles the decision, whatever it does to the document. -/
theorem decided_marked (o : Options) (marked present : Bool) (ns : List Node) :
    decided o ((marked || ns.any (bindsItself o)) || present) ns =
      decided o (marked || present) ns := by
  cases own : ns.any (bindsItself o) <;> simp [decided, own]

end Roots

namespace Wiring

/-- What a run tells: its failure, or nothing of a document that is left alone, or what it says. -/
def told (w : Wiring) : Except Failure (Option Told) :=
  match w.report with
  | .error failure => .error failure
  | .ok .skipped => .ok none
  | .ok (.completed _ decision) =>
    .ok (some ⟨decision, w.document.component, w.document.renderer, w.document.dependencies,
      w.document.constants⟩)

def foretold (folder : Folder) (d : Document) (ns : List Node) : Except Failure (Option Told) :=
  match Sibling.baseName? d.filename d.options.templateExtension with
  | none => .ok none
  | some base =>
    match Sibling.scan folder base d with
    | .error failure => .error failure
    | .ok scanned =>
      match ns.findSome? (Roots.fatal? scanned.options) with
      | some failure => .error failure
      | none => .ok (some (Roots.foretold scanned ns))

variable {t : Tree} {d : Document} {gone ids : List Nat}

theorem keys_markAll_gather (o : Options) (several : Bool) (inside : ∀ id ∈ ids, id < t.size)
    (distinct : ids.Nodup) :
    (Binding.markAll o several (t.detachAll gone) 0 (Roots.gather o t ids).nodes).2 =
      (List.range' 0
        (Binding.receiverCount o several ((ids.map t.node).filter (Roots.isRoot o)))).map
        (Binding.keyText o) := by
  have below : ∀ id ∈ (Roots.gather o t ids).nodes, id < (t.detachAll gone).size := by
    intro id member
    rw [size_detachAll]
    exact inside id (List.mem_filter.mp member).1
  have keying := Binding.markAll_keying o several (t.detachAll gone) 0 (Roots.gather o t ids).nodes
    below (distinct.filter _)
  rw [keying.given, (keyless_detachAll t gone _ o several).2, Roots.roots_gather]

theorem decision_ruling {r : Roots} (gathered : r = Roots.gather d.options t ids)
    (inside : ∀ id ∈ ids, id < t.size) (distinct : ids.Nodup) {out : Tree × Document × Decision}
    (ruling : Binding.Ruling (t.detachAll gone) d r out) :
    out.2.2 = Roots.decided d.options d.isBound (ids.map t.node) := by
  have own : r.legacyBind = (ids.map t.node).any (Roots.bindsItself d.options) := by
    rw [gathered, List.any_map]
    rfl
  have named := Roots.identified_pos d.options t ids
  have roots := Roots.roots_gather d.options t ids
  rw [← gathered] at named roots
  have length : ((ids.map t.node).filter (Roots.isRoot d.options)).length = r.nodes.length := by
    rw [← roots, List.length_map]
  cases ruling with
  | explicit legacy =>
      rw [own] at legacy
      simp only [Roots.decided, legacy, if_true]
  | unbound free bare =>
      rw [own] at free
      simp [Roots.decided, free, bare]
  | rootless free ready none =>
      rw [own] at free
      rw [none] at roots
      simp [Roots.decided, free, ready, ← roots]
  | ambiguous free ready several counted =>
      rw [own] at free
      have some : (ids.map t.node).filter (Roots.isRoot d.options) ≠ [] := by
        intro none
        simp [none] at length
        omega
      have both : ((decide (1 < r.nodes.length)) &&
          (ids.map t.node).any (Roots.isIdentified d.options)) = true := by
        rw [← named]
        simp [several, counted]
      simp only [Roots.decided, free, ready, some, length, both]
      rfl
  | bound free ready some clear keyed keys marking =>
      rw [own] at free
      have some : (ids.map t.node).filter (Roots.isRoot d.options) ≠ [] := by
        intro none
        rw [none] at roots
        exact some (List.map_eq_nil_iff.mp roots)
      have either : ((decide (1 < r.nodes.length)) &&
          (ids.map t.node).any (Roots.isIdentified d.options)) = false := by
        rw [← named, Bool.and_eq_false_iff, decide_eq_false_iff_not, decide_eq_false_iff_not]
        omega
      have given : (Binding.markAll d.options (decide (1 < r.nodes.length)) (t.detachAll gone) 0
          (Roots.gather d.options t ids).nodes).2 = _ :=
        keys_markAll_gather d.options (decide (1 < r.nodes.length)) inside distinct
      rw [← gathered, marking] at given
      change keys = _ at given
      simp only [Roots.decided, free, ready, some, length, either, ← given]
      rfl

theorem kept_ruling {u : Tree} {r : Roots} {out : Tree × Document × Decision}
    (ruling : Binding.Ruling u d r out) :
    out.2.1.slots = d.slots ∧ out.2.1.dependencies = d.dependencies := by
  cases ruling <;> exact ⟨rfl, rfl⟩

theorem told_completed (wf : WellFormed t) {w : Walk.Swept Roots.Search Failure}
    (sweep : Walk.sweep Roots.visit t { document := d } [] t.frontier = w) (ok : w.error = none)
    {out : Tree × Document × Decision}
    (ruling : Binding.Ruling (t.detachAll w.gone) w.state.document w.state.roots out) :
    Told.mk out.2.2 out.2.1.component out.2.1.renderer out.2.1.dependencies out.2.1.constants =
      Roots.foretold d (t.frontier.map t.node) := by
  rw [← sweep] at ok
  obtain ⟨gathered, marked, options⟩ := Roots.sweep_roots t.frontier { document := d } [] ok
  have leaving := Roots.sweep_leaving t.frontier { document := d } [] ok
  have slots := Roots.sweep_slots t t.frontier { document := d } [] ok
  rw [sweep] at gathered marked options leaving slots
  have dependencies := leaving.dependencies
  rw [Roots.empty_merge, ← options] at gathered
  obtain ⟨kept_slots, kept_dependencies⟩ := kept_ruling ruling
  have decision := decision_ruling gathered (frontier_inside wf) (frontier_nodup wf) ruling
  have wired := kept_slots.trans slots
  simp only [Document.slots, Prod.mk.injEq] at wired slots
  have own : (t.frontier.any fun id => Roots.bindsItself d.options (t.node id)) =
      (t.frontier.map t.node).any (Roots.bindsItself d.options) := by
    rw [List.any_map]
    rfl
  have written : Roots.styleDependencies d t t.frontier =
      (t.frontier.map t.node).filterMap (Roots.styleDependency? d) := by
    rw [List.filterMap_map]
    rfl
  rw [Document.isBound, marked, slots.1, own, options, Roots.decided_marked] at decision
  rw [decision, wired.1, wired.2.1, wired.2.2, kept_dependencies, dependencies, written]
  rfl

theorem told_run (folder : Folder) (wf : WellFormed t) (d : Document) :
    (run folder t d).told = foretold folder d (t.frontier.map t.node) := by
  have course := run_course folder t d
  generalize run folder t d = w at course
  rw [foretold]
  cases course with
  | skipped nameless => simp only [nameless, told]
  | unread base failure named scan => simp only [named, scan, told]
  | stopped base scanned failure named scan failed =>
      rw [Roots.collect_eq_sweep wf] at failed ⊢
      have first := Roots.sweep_error t t.frontier { document := scanned } []
      change (Walk.sweep Roots.visit t { document := scanned } [] t.frontier).error = _ at failed
      rw [failed] at first
      simp only [named, scan, told, ← first]
  | completed base scanned tree document decision named scan ok ruling =>
      rw [Roots.collect_eq_sweep wf] at ok ruling ⊢
      have none := Roots.sweep_error t t.frontier { document := scanned } []
      change (Walk.sweep Roots.visit t { document := scanned } [] t.frontier).error = _ at ok
      rw [ok] at none
      have told := told_completed wf rfl ok ruling
      simp only [named, scan, ← none, ← told, Wiring.told]

end Wiring

end TemplateWiring
