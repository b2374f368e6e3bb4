import TemplateWiring.Proofs.Roots.Leavers
import TemplateWiring.Proofs.Sibling.Precedence
import TemplateWiring.Proofs.Wiring.Course

/-! How the slots of a document, its constants and the decision on its roots fit together. The slots
are filled by files first and by an inline class at most once after that, and the roots are ruled
upon by what the slots hold then. -/

namespace TemplateWiring

namespace Document

structure External (d : Document) : Prop where
  component : ∀ m, d.component = some m → m.isInline = false
  renderer : ∀ m, d.renderer = some m → m.isInline = false
  backed : d.component = none → d.renderer = none
  unpooled : d.constants = []

/-- The one constant is the renderer, and the component too unless that is a file. -/
structure Pooled (d : Document) : Prop where
  constants : ∃ source, d.constants = [⟨d.options.componentConstantName, source⟩]
  renderer : d.renderer = some (Inline.module d d.options.componentConstantName)
  component : ∃ m, d.component = some m ∧ (m.isInline = true → d.renderer = some m)

def Settled (d : Document) : Prop := d.External ∨ d.Pooled

variable {d : Document}

theorem external_fresh (filename : String) (o : Options) :
    External { filename := filename, options := o } := by
  constructor
  · exact fun _ found => nomatch found
  · exact fun _ found => nomatch found
  · exact fun _ => rfl
  · rfl

theorem Settled.update (settled : d.Settled) (marked : Bool) (dependencies : List Dependency)
    (diagnostics : List Diagnostic) :
    Settled { d with
      marked := marked, dependencies := dependencies, diagnostics := diagnostics } := by
  rcases settled with external | pooled
  · exact .inl ⟨external.component, external.renderer, external.backed, external.unpooled⟩
  · exact .inr ⟨pooled.constants, pooled.renderer, pooled.component⟩

theorem Settled.backed (settled : d.Settled) (absent : d.component = none) : d.renderer = none := by
  rcases settled with external | pooled
  · exact external.backed absent
  · obtain ⟨m, slot, _⟩ := pooled.component
    rw [slot] at absent
    cases absent

theorem freshName_nil (name : String) : freshName [] name = name := rfl

theorem pooled_install (settled : d.Settled) (vacant : d.renderer = none) (object : String) :
    Pooled (Inline.install d object) := by
  rcases settled with external | pooled
  · have fresh : freshName d.constants d.options.componentConstantName =
        d.options.componentConstantName := by
      rw [external.unpooled, freshName_nil]
    constructor
    · refine ⟨object, ?_⟩
      simp only [Inline.install, addConstant, external.unpooled, freshName_nil]
      rfl
    · simp only [Inline.install, addConstant, fresh]
      rfl
    · refine ⟨_, rfl, ?_⟩
      intro inline
      cases slot : d.component with
      | none => rfl
      | some m =>
          have file := external.component m slot
          simp [slot, file] at inline
  · rw [pooled.renderer] at vacant
    cases vacant

end Document

namespace Sibling

open Document

theorem external_settle {d : Document} (external : d.External) (base dir name : String) :
    External (settle base dir d name) := by
  rw [settle]
  cases classify base name with
  | none => exact external
  | some role =>
      have file (m : Module) (found : some (fileModule dir name) = some m) :
          m.isInline = false := by
        cases found
        rfl
      have backed (absent : some (fileModule dir name) = none) (slot : Option Module) :
          slot = none := absurd absent (Option.some_ne_none _)
      cases role with
      | style => exact ⟨external.component, external.renderer, external.backed, external.unpooled⟩
      | splitComponent =>
          exact ⟨file, external.renderer, fun absent => backed absent _, external.unpooled⟩
      | component => exact ⟨file, file, fun absent => backed absent _, external.unpooled⟩

theorem external_scan {folder : Folder} {base : String} {d after : Document}
    (external : d.External) (scan : Sibling.scan folder base d = .ok after) :
    External after := by
  obtain ⟨names, -, settled⟩ := settled_of_scan scan
  rw [settled]
  clear settled
  induction names with
  | nil => exact external
  | cons name rest ih => exact external_settle ih base d.folder name

end Sibling

namespace Roots

theorem settled_yield {s : Search} {n : Node} {id : Nat} {v : Visit Search Failure}
    (yield : Yield s n id v) (settled : s.document.Settled) : v.state.document.Settled := by
  cases yield with
  | nothing marked diagnostics _ _ _ document =>
      rw [document]
      exact settled.update marked s.document.dependencies diagnostics
  | style language code _ _ _ document =>
      rw [document]
      exact settled.update s.document.marked _ s.document.diagnostics
  | object text _ _ vacant _ document =>
      rw [document]
      exact .inr (Document.pooled_install settled vacant text)

end Roots

namespace Binding

structure Told (d : Document) (decision : Decision) : Prop where
  unbound : decision = .noBoundComponent → d.component = none
  bound : decision = .noRootNodes ∨ decision = .ambiguousIds ∨
    (∃ rootCount keys, decision = .bound rootCount keys) → d.component ≠ none

/-- Where only an element that binds itself can have marked the document, the decision tells whether
it has a component. -/
theorem told_ruling {t : Tree} {d : Document} {r : Roots} {out : Tree × Document × Decision}
    (agree : d.marked = r.legacyBind) (ruling : Ruling t d r out) : Told out.2.1 out.2.2 := by
  have present (own : r.legacyBind = false) (ready : d.isBound = true) : d.component ≠ none := by
    rw [Document.isBound, agree, own, Bool.false_or] at ready
    exact Option.isSome_iff_ne_none.mp ready
  cases ruling with
  | explicit own =>
      constructor
      · intro other
        cases other
      · rintro (other | other | ⟨_, _, other⟩) <;> cases other
  | unbound own bare =>
      constructor
      · intro _
        rw [Document.isBound, Bool.or_eq_false_iff] at bare
        exact Option.isSome_eq_false_iff.mp bare.2 |> Option.isNone_iff_eq_none.mp
      · rintro (other | other | ⟨_, _, other⟩) <;> cases other
  | rootless own ready => exact ⟨(fun other => nomatch other), fun _ => present own ready⟩
  | ambiguous own ready => exact ⟨(fun other => nomatch other), fun _ => present own ready⟩
  | bound own ready => exact ⟨(fun other => nomatch other), fun _ => present own ready⟩

theorem settled_ruling {t : Tree} {d : Document} {r : Roots} {out : Tree × Document × Decision}
    (settled : d.Settled) (ruling : Ruling t d r out) :
    out.2.1.Settled ∧ out.2.1.options = d.options := by
  cases ruling with
  | bound => exact ⟨settled.update true d.dependencies d.diagnostics, rfl⟩
  | _ => exact ⟨settled, rfl⟩

end Binding

namespace Wiring

open TemplateWiring.Tree Document

theorem nameless_of_skipped {folder : Folder} {t : Tree} {d : Document}
    (skipped : (run folder t d).report = .ok .skipped) :
    Sibling.baseName? d.filename d.options.templateExtension = none := by
  have course := run_course folder t d
  generalize run folder t d = w at course skipped
  cases course with
  | skipped nameless => exact nameless
  | unread => cases skipped
  | stopped => cases skipped
  | completed => cases skipped

theorem run_settled {folder : Folder} {t : Tree} {filename : String} {o : Options} {roots : Roots}
    {decision : Decision} (wf : WellFormed t)
    (done : (run folder t { filename := filename, options := o }).report =
      .ok (.completed roots decision)) :
    let d := (run folder t { filename := filename, options := o }).document
    d.Settled ∧ d.options = o ∧ Binding.Told d decision := by
  have course := run_course folder t { filename := filename, options := o }
  generalize run folder t { filename := filename, options := o } = w at course done ⊢
  cases course with
  | skipped => cases done
  | unread => cases done
  | stopped => cases done
  | completed base scanned tree document _ named scan ok ruling =>
      cases done
      rw [Roots.collect_eq_sweep wf] at ok ruling
      have facts := Sibling.scanned_scan scan
      have external := Sibling.external_scan (external_fresh filename o) scan
      have settled := Roots.sweep_keeps (P := Document.Settled)
        (fun _ _ _ _ => Roots.settled_yield) t t.frontier { document := scanned } [] (.inl external)
      have found := Roots.sweep_roots t.frontier { document := scanned } [] ok
      generalize Walk.sweep Roots.visit t { document := scanned } [] t.frontier = swept
        at settled found ruling
      obtain ⟨gathered, marked, options⟩ := found
      have agree : swept.state.document.marked = swept.state.roots.legacyBind := by
        rw [gathered, marked, Roots.empty_merge, facts.marked]
        rfl
      obtain ⟨kept, same⟩ := Binding.settled_ruling settled ruling
      exact ⟨kept, same.trans (options.trans facts.options), Binding.told_ruling agree ruling⟩

end Wiring

end TemplateWiring
