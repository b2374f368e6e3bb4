import TemplateWiring.Proofs.Binding.Marking
import TemplateWiring.Proofs.Tree.Grafting
import TemplateWiring.Proofs.Tree.Nested
import TemplateWiring.Proofs.Wiring.Completed

namespace TemplateWiring

namespace Template

def styleTags (o : Options) (τ : Template) : List (Nat × Template) :=
  (τ.frontier 0).filter fun place => (Roots.styleBlock? o place.2.head).isSome

/-- The first class of the frontier that becomes an object; it goes when no renderer is known. -/
def inlineClass (o : Options) (vacant : Bool) (τ : Template) : List (Nat × Template) :=
  if vacant then
    ((τ.frontier 0).find? fun place => (Roots.behavior? o place.2.head).isSome).toList
  else []

def leavers (o : Options) (vacant : Bool) (τ : Template) : List Nat :=
  (τ.styleTags o ++ τ.inlineClass o vacant).map (·.1)

/-- The blocks of the style tags, in their languages and under names behind that of the document. -/
def styleBlocks (o : Options) (d : Document) (τ : Template) : List StyleBlock :=
  (τ.styleTags o).filterMap fun place =>
    (Roots.styleBlock? o place.2.head).map fun (language, inner) =>
      { language := language
        code := String.ofList (Text.trim inner)
        virtualPath := "./" ++ d.basename ++ "." ++ language
        path := "./" ++ d.basename }

end Template

def Dependency.style? : Dependency → Option StyleBlock
  | .path _ => none
  | .style block => some block

namespace Roots

theorem styleBlock?_template (o : Options) (n : Node) (cs : List Template) :
    styleBlock? o (n.template cs).head = styleBlock? o n := by
  have unnamed : (lowerAscii "" == lowerAscii "style") = false := by decide
  cases kind : n.kind with
  | element =>
      cases tag : n.tag with
      | none => simp [styleBlock?, Node.template, Template.head, kind, Node.isTag, tag, unnamed]
      | some name =>
          simp [styleBlock?, bindsItself, Style.read, Node.template, Template.head, kind,
            Node.isTag, tag]
  | _ => simp [styleBlock?, Node.template, Template.head, kind]

theorem behavior?_template (o : Options) (n : Node) (cs : List Template) :
    behavior? o (n.template cs).head = behavior? o n := by
  cases kind : n.kind <;>
    simp [behavior?, Node.template, Template.head, kind, Node.isTag]

end Roots

namespace Wiring

open TemplateWiring.Tree

variable {t : Tree}

theorem styleBlock?_nested (wf : WellFormed t) (o : Options) (id : Nat) :
    Roots.styleBlock? o (nested t id).head = Roots.styleBlock? o (t.node id) := by
  rw [nested_eq wf, Roots.styleBlock?_template]

theorem behavior?_nested (wf : WellFormed t) (o : Options) (id : Nat) :
    Roots.behavior? o (nested t id).head = Roots.behavior? o (t.node id) := by
  rw [nested_eq wf, Roots.behavior?_template]

theorem frontier_toTemplate (wf : WellFormed t) (ordered : t.documentOrder = List.range t.size) :
    Tree.Counted id 0 (t.subtree 0) ∧
      t.toTemplate.frontier 0 = t.frontier.map fun other => (other, nested t other) := by
  have counted : Tree.Counted id 0 (t.subtree 0) := by
    have range : t.subtree 0 = List.range t.size := ordered
    rw [Tree.Counted, range, List.map_id, List.length_range, List.range_eq_range']
  refine ⟨counted, ?_⟩
  rw [toTemplate_eq wf]
  exact frontier_nested wf 0 0 counted

theorem styleTags_toTemplate (wf : WellFormed t) (ordered : t.documentOrder = List.range t.size)
    (o : Options) : t.toTemplate.styleTags o =
      (Roots.styleTags o t t.frontier).map fun other => (other, nested t other) := by
  rw [Template.styleTags, (frontier_toTemplate wf ordered).2, List.filter_map]
  congr 1
  apply List.filter_congr
  intro other _
  simp only [Function.comp, styleBlock?_nested wf]

theorem inlineClass_toTemplate (wf : WellFormed t)
    (ordered : t.documentOrder = List.range t.size) (d : Document) :
    t.toTemplate.inlineClass d.options d.renderer.isNone =
      (Roots.inlineClass? d t t.frontier).toList.map fun other => (other, nested t other) := by
  rw [Template.inlineClass, Roots.inlineClass?, (frontier_toTemplate wf ordered).2, List.find?_map]
  split
  · simp only [Function.comp_def, behavior?_nested wf, Option.toList_map]
  · rfl

variable {folder : Folder} {d : Document} {base : String} {scanned : Document}
  {swept : Walk.Swept Roots.Search Failure} {roots : Roots} {decision : Decision}

theorem mem_leavers (wf : WellFormed t) (ordered : t.documentOrder = List.range t.size)
    (leaving : Roots.Leaving t scanned [] t.frontier swept) (id : Nat) :
    id ∈ t.toTemplate.leavers scanned.options scanned.renderer.isNone ↔ id ∈ swept.gone := by
  have same (ids : List Nat) :
      (ids.map fun other => (other, nested t other)).map (·.1) = ids := by
    rw [List.map_map]
    exact List.map_id ids
  rw [Template.leavers, List.map_append, styleTags_toTemplate wf ordered,
    inlineClass_toTemplate wf ordered, same, same, List.mem_append, Option.mem_toList,
    leaving.gone id]
  simp

theorem wellFormed_ruling {u : Tree} (wf : WellFormed u) {document : Document}
    {out : Tree × Document × Decision} (ruling : Binding.Ruling u document roots out) :
    WellFormed out.1 := by
  cases ruling with
  | bound own ready some clear keyed keys marking =>
      have tree : keyed = (Binding.markAll document.options _ u 0 roots.nodes).1 :=
        (congrArg Prod.fst marking).symm
      rw [tree]
      exact Binding.markAll_induction _ _ u 0 roots.nodes WellFormed wf
        fun v id name value _ held => wellFormed_setAttr held id name value
  | _ => exact wf

/-- Ruling on the roots writes attributes of the frontier at most. -/
theorem unadorned_ruling {u : Tree} (wf : WellFormed u) {document : Document}
    (frontier : ∀ id ∈ roots.nodes, id ∈ u.frontier) {out : Tree × Document × Decision}
    (ruling : Binding.Ruling u document roots out) :
    out.1.toTemplate.unadorned = u.toTemplate.unadorned := by
  have wf' := wellFormed_ruling wf ruling
  cases ruling with
  | bound own ready some clear keyed keys marking =>
      have tree : keyed = (Binding.markAll document.options _ u 0 roots.nodes).1 :=
        (congrArg Prod.fst marking).symm
      change keyed.toTemplate.unadorned = _
      rw [toTemplate_eq wf, toTemplate_eq wf']
      apply unadorned_congr wf wf'
      · intro id
        rw [tree]
        exact Binding.view_markAll _ _ u 0 roots.nodes Node.bare id (fun _ _ => rfl)
      · intro id outside
        rw [tree]
        exact Binding.node_markAll_ne _ _ u 0 roots.nodes
          (fun member => outside (frontier id member))
      · exact mem_listing_self 0
  | _ => rfl

theorem document_ruling {u : Tree} {document : Document} {out : Tree × Document × Decision}
    (ruling : Binding.Ruling u document roots out) :
    out.2.1.dependencies = document.dependencies ∧ out.2.1.constants = document.constants := by
  cases ruling <;> exact ⟨rfl, rfl⟩

theorem Completed.toTemplate_run (wf : WellFormed t)
    (ordered : t.documentOrder = List.range t.size)
    (completed : Completed folder t d base scanned swept roots decision) :
    (run folder t d).tree.toTemplate.unadorned =
      (t.toTemplate.strip (fun k =>
        decide (k ∈ t.toTemplate.leavers d.options scanned.renderer.isNone)) 0).unadorned := by
  have wf' := wellFormed_detachAll wf swept.gone
  have gone : (fun k => decide (k ∈ t.toTemplate.leavers d.options scanned.renderer.isNone)) =
      fun k => decide (k ∈ swept.gone) := by
    funext k
    rw [← completed.scanned_options]
    exact decide_eq_decide.mpr (mem_leavers wf ordered completed.leaving k)
  have left : nested (t.detachAll swept.gone) 0 =
      (nested t 0).strip (fun k => decide (k ∈ swept.gone)) 0 :=
    nested_detachAll wf 0 0 (frontier_toTemplate wf ordered).1 (fun _ _ => rfl)
  calc
    (run folder t d).tree.toTemplate.unadorned = (t.detachAll swept.gone).toTemplate.unadorned :=
      unadorned_ruling wf' (completed.roots_reached wf) completed.ruling
    _ = (t.toTemplate.strip (fun k => decide (k ∈ swept.gone)) 0).unadorned := by
      rw [toTemplate_eq wf', toTemplate_eq wf, left]
    _ = _ := by rw [gone]

def blocksOf (o : Options) (d : Document) (t : Tree) (ids : List Nat) : List StyleBlock :=
  ids.filterMap fun id =>
    (Roots.styleBlock? o (t.node id)).map fun block => Style.dependency d block.1 block.2

theorem styleBlocks_toTemplate (wf : WellFormed t) (ordered : t.documentOrder = List.range t.size)
    (o : Options) (d : Document) :
    t.toTemplate.styleBlocks o d = blocksOf o d t t.frontier := by
  rw [Template.styleBlocks, styleTags_toTemplate wf ordered, List.filterMap_map, Roots.styleTags,
    List.filterMap_filter]
  congr 1
  funext id
  simp only [Function.comp, styleBlock?_nested wf]
  cases Roots.styleBlock? o (t.node id) <;> rfl

theorem Completed.dependencies_run (wf : WellFormed t)
    (ordered : t.documentOrder = List.range t.size)
    (completed : Completed folder t d base scanned swept roots decision)
    (fresh : d.dependencies = []) :
    (run folder t d).document.dependencies.filterMap Dependency.style? =
      t.toTemplate.styleBlocks d.options d := by
  have facts := Sibling.scanned_scan completed.scan
  obtain ⟨files, found⟩ := facts.dependencies
  have plain : (files.map Dependency.path).filterMap Dependency.style? = [] := by
    simp [Dependency.style?]
  have block (language : String) (code : List Char) :
      Style.dependency scanned language code = Style.dependency d language code := by
    simp [Style.dependency, Document.basename, facts.filename]
  rw [(document_ruling completed.ruling).1, completed.leaving.dependencies, found, fresh,
    List.nil_append, List.filterMap_append, plain, List.nil_append,
    styleBlocks_toTemplate wf ordered, Roots.styleDependencies, List.filterMap_filterMap, blocksOf]
  congr 1
  funext id
  rw [Roots.styleDependency?, facts.options]
  cases Roots.styleBlock? d.options (t.node id) with
  | none => rfl
  | some found => exact congrArg some (block found.1 found.2)

theorem Completed.constants_run (wf : WellFormed t)
    (ordered : t.documentOrder = List.range t.size)
    (completed : Completed folder t d base scanned swept roots decision)
    (fresh : d.constants = []) :
    (run folder t d).document.constants.length =
      (t.toTemplate.inlineClass d.options scanned.renderer.isNone).length := by
  have facts := Sibling.scanned_scan completed.scan
  rw [(document_ruling completed.ruling).2, completed.leaving.constants, facts.constants, fresh,
    ← facts.options, inlineClass_toTemplate wf ordered, List.length_map]
  exact Nat.zero_add _

/-- What has become of a template: what was taken out of it, and what is written down for that. -/
structure Strips (before : Template) (d : Document) (vacant : Bool) (after : Wiring) : Prop where
  tree : after.tree.toTemplate.unadorned =
    (before.strip (fun k => decide (k ∈ before.leavers d.options vacant)) 0).unadorned
  dependencies : after.document.dependencies.filterMap Dependency.style? =
    before.styleBlocks d.options d
  constants : after.document.constants.length = (before.inlineClass d.options vacant).length

/-- The effect of a run on the tree: of the template as it was, the style tags of the frontier that
carry a block go, and the first class that becomes an object, if the siblings gave no renderer. All
the rest stays in its place, and what is written down is what has gone. -/
theorem completed_run_strips (folder : Folder) (n : Template) (filename : String) (o : Options)
    (roots : Roots) (decision : Decision)
    (done : (run folder (ofTemplate n) { filename := filename, options := o }).report =
      .ok (.completed roots decision)) :
    ∃ base scanned,
      Sibling.baseName? filename o.templateExtension = some base ∧
      Sibling.scan folder base { filename := filename, options := o } = .ok scanned ∧
      Strips (ofTemplate n).toTemplate { filename := filename, options := o }
        scanned.renderer.isNone
        (run folder (ofTemplate n) { filename := filename, options := o }) := by
  have wf := wellFormed_of_reachable (reachable_ofTemplate n)
  have ordered := documentOrder_ofTemplate n
  obtain ⟨base, scanned, swept, completed⟩ := run_completed wf done
  refine ⟨base, scanned, completed.named, completed.scan, ?_⟩
  constructor
  · exact completed.toTemplate_run wf ordered
  · exact completed.dependencies_run wf ordered rfl
  · exact completed.constants_run wf ordered rfl

/-- Two style tags, of which one carries a block, and two classes, of which the second meets the
renderer that the first has become. -/
def classPage : Template :=
  .container [
    .container [
      .element .html "style" [⟨"{ .a {} }", .bare⟩] [.element .html "b" [] [] 2 none] 1 none,
      .other (some "class") (some "class { onInput() { return 1; } }") [] 3] 0,
    .element .html "style" [] [] 4 none,
    .other (some "Class") (some "class { }") [] 5,
    .element .html "div" [] [.element .html "style" [⟨"{ .b {} }", .bare⟩] [] 7 none] 6 none] 0

theorem classPage_stripped :
    (run (Folder.working "/srv/site") (ofTemplate classPage)
        { filename := "/srv/site/index.marko" }).report =
        .ok (.completed { nodes := [8] } (.bound 1 [])) ∧
      ∃ base scanned,
        Sibling.baseName? "/srv/site/index.marko" ({} : Options).templateExtension = some base ∧
        Sibling.scan (Folder.working "/srv/site") base { filename := "/srv/site/index.marko" } =
          .ok scanned ∧
        Strips (ofTemplate classPage).toTemplate { filename := "/srv/site/index.marko" }
          scanned.renderer.isNone
          (run (Folder.working "/srv/site") (ofTemplate classPage)
            { filename := "/srv/site/index.marko" }) := by
  have wf := wellFormed_of_reachable (reachable_ofTemplate classPage)
  have frontier : (ofTemplate classPage).frontier = [0, 1, 2, 3, 5, 6, 7, 8] :=
    (frontier_ofTemplate classPage).trans (by decide +kernel)
  have scan : Sibling.scan (Folder.working "/srv/site") "index"
      { filename := "/srv/site/index.marko" } =
      .ok { filename := "/srv/site/index.marko" } := by decide +kernel
  have ok : (Walk.sweep Roots.visit (ofTemplate classPage)
      { document := { filename := "/srv/site/index.marko" } } []
      [0, 1, 2, 3, 5, 6, 7, 8]).error = none := by
    decide +kernel
  have report : (run (Folder.working "/srv/site") (ofTemplate classPage)
      { filename := "/srv/site/index.marko" }).report =
      .ok (.completed { nodes := [8] } (.bound 1 [])) := by
    rw [report_of_sweep wf (by decide +kernel) scan frontier ok]
    exact congrArg Except.ok (by decide +kernel)
  exact ⟨report, completed_run_strips _ classPage "/srv/site/index.marko" {} _ _ report⟩

end Wiring

end TemplateWiring
