import TemplateWiring.Proofs.Wiring.Foretold

/-! The order in which elements, style tags and inline classes stand among each other does not
matter: a run looks at each of these groups by itself. -/

namespace TemplateWiring

open TemplateWiring.Tree

/-- The nodes that a search does something with: those that are rendered, style tags, and inline
classes. -/
inductive Group where
  | rendered
  | style
  | behavior
  deriving DecidableEq, Repr

def Node.group? (n : Node) : Option Group :=
  match n.kind with
  | .custom => some .rendered
  | .element => if n.isTag "style" then some .style else some .rendered
  | .other => if n.isTag "class" then some .behavior else none
  | .root | .container => none

/-- The nodes of one group that are reached through wrappers only, in document order and without
their links. -/
def Tree.members (t : Tree) (group : Group) : List Node :=
  (t.frontier.map fun id => (t.node id).content).filter (·.group? == some group)

def Template.members (τ : Template) (group : Group) : List Template :=
  ((frontierAll 1 τ.tops).map (·.2)).filter fun member => member.head.group? == some group

theorem Tree.members_ofTemplate (τ : Template) (group : Group) :
    (ofTemplate τ).members group = (τ.members group).map Template.head := by
  rw [members, contents_ofTemplate, List.filter_cons_of_neg (by simp [Node.group?]),
    Template.members, List.filter_map, List.filter_map, List.map_map]
  rfl

/-- Two lists of nodes that hold the same nodes of each group in the same order. -/
def Interleaved (ns ms : List Node) : Prop :=
  ∀ group, ns.filter (·.group? == some group) = ms.filter (·.group? == some group)

namespace Interleaved

variable {ns ms : List Node} {β : Type}

theorem mem (same : Interleaved ns ms) {n : Node} {group : Group} (own : n.group? = some group)
    (member : n ∈ ns) : n ∈ ms := by
  have among : n ∈ ns.filter (·.group? == some group) :=
    List.mem_filter.mpr ⟨member, beq_iff_eq.mpr own⟩
  rw [same group] at among
  exact (List.mem_filter.mp among).1

theorem symm (same : Interleaved ns ms) : Interleaved ms ns := fun group => (same group).symm

theorem any_eq (same : Interleaved ns ms) {p : Node → Bool}
    (own : ∀ n, p n = true → ∃ group, n.group? = some group) : ns.any p = ms.any p := by
  have half {first second : List Node} (same : Interleaved first second)
      (found : first.any p = true) : second.any p = true := by
    obtain ⟨n, member, holds⟩ := List.any_eq_true.mp found
    obtain ⟨group, among⟩ := own n holds
    exact List.any_eq_true.mpr ⟨n, same.mem among member, holds⟩
  rw [Bool.eq_iff_iff]
  exact ⟨half same, half same.symm⟩

theorem filterMap_eq (same : Interleaved ns ms) (group : Group) {f : Node → Option β}
    (own : ∀ n, (f n).isSome = true → n.group? = some group) : ns.filterMap f = ms.filterMap f := by
  have restrict (ls : List Node) :
      (ls.filter (·.group? == some group)).filterMap f = ls.filterMap f := by
    rw [List.filterMap_filter]
    congr 1
    funext n
    by_cases among : n.group? = some group
    · simp [among]
    · have silent : f n = none := by
        rw [← Option.isNone_iff_eq_none, ← Option.isSome_eq_false_iff, ← Bool.not_eq_true]
        exact fun found => among (own n found)
      simp [among, silent]
  rw [← restrict ns, same group, restrict ms]

theorem filter_eq (same : Interleaved ns ms) (group : Group) {p : Node → Bool}
    (own : ∀ n, p n = true → n.group? = some group) : ns.filter p = ms.filter p := by
  rw [← List.filterMap_eq_filter]
  apply same.filterMap_eq group
  intro n found
  apply own
  simpa [Option.guard] using found

theorem findSome?_eq (same : Interleaved ns ms) (group : Group) {f : Node → Option β}
    (own : ∀ n, (f n).isSome = true → n.group? = some group) :
    ns.findSome? f = ms.findSome? f := by
  rw [← List.head?_filterMap, ← List.head?_filterMap, same.filterMap_eq group own]

end Interleaved

namespace Roots

variable {o : Options} {n : Node}

theorem group_of_element (kind : n.kind = .element) : ∃ group, n.group? = some group := by
  cases tag : n.isTag "style" with
  | true => exact ⟨.style, by simp [Node.group?, kind, tag]⟩
  | false => exact ⟨.rendered, by simp [Node.group?, kind, tag]⟩

theorem group_of_bindsItself (own : bindsItself o n = true) : ∃ group, n.group? = some group := by
  simp only [bindsItself, Bool.and_eq_true, beq_iff_eq] at own
  exact group_of_element own.1

theorem group_of_isIdentified (named : isIdentified o n = true) :
    ∃ group, n.group? = some group := by
  simp only [isIdentified, Bool.and_eq_true, beq_iff_eq] at named
  exact group_of_element named.1.1

theorem group_of_isRoot (root : isRoot o n = true) : n.group? = some .rendered := by
  cases kind : n.kind with
  | custom => simp [Node.group?, kind]
  | element =>
      simp only [isRoot, kind, Bool.and_eq_true, Bool.not_eq_true'] at root
      simp [Node.group?, kind, root.2]
  | _ => simp [isRoot, kind] at root

theorem group_of_styleDependency {d : Document} (block : (styleDependency? d n).isSome = true) :
    n.group? = some .style := by
  rw [styleDependency?, Option.isSome_map, styleBlock?] at block
  split at block
  next held =>
    simp only [Bool.and_eq_true, beq_iff_eq] at held
    simp [Node.group?, held]
  next => cases block

theorem group_of_class (held : (n.kind == .other && n.isTag "class") = true) :
    n.group? = some .behavior := by
  simp only [Bool.and_eq_true, beq_iff_eq] at held
  simp [Node.group?, held]

theorem group_of_behavior (object : (behavior? o n).isSome = true) :
    n.group? = some .behavior := by
  rw [behavior?] at object
  split at object
  next held => exact group_of_class held
  next => cases object

theorem group_of_fatal (failure : (fatal? o n).isSome = true) : n.group? = some .behavior := by
  rw [fatal?] at failure
  split at failure
  next held => exact group_of_class held
  next => cases failure

variable {ns ms : List Node}

theorem decided_interleaved (same : Interleaved ns ms) (o : Options) (ready : Bool) :
    decided o ready ns = decided o ready ms := by
  simp only [decided, same.filter_eq .rendered fun _ => group_of_isRoot,
    same.any_eq fun _ => group_of_bindsItself, same.any_eq fun _ => group_of_isIdentified]

theorem installFirst_interleaved (same : Interleaved ns ms) (d : Document) :
    installFirst d ns = installFirst d ms := by
  simp only [installFirst, same.findSome?_eq .behavior fun _ => group_of_behavior]

theorem foretold_interleaved (same : Interleaved ns ms) (d : Document) :
    foretold d ns = foretold d ms := by
  simp only [foretold, decided_interleaved same, installFirst_interleaved same,
    same.filterMap_eq .style fun _ => group_of_styleDependency]

theorem decided_content (o : Options) (ready : Bool) (ns : List Node) :
    decided o ready (ns.map Node.content) = decided o ready ns := by
  have roots : (ns.map Node.content).filter (isRoot o) =
      (ns.filter (isRoot o)).map Node.content := by
    rw [List.filter_map]
    rfl
  have own : (ns.map Node.content).any (bindsItself o) = ns.any (bindsItself o) := by
    rw [List.any_map]
    rfl
  have named : (ns.map Node.content).any (isIdentified o) = ns.any (isIdentified o) := by
    rw [List.any_map]
    rfl
  have count (several : Bool) (ls : List Node) :
      Binding.receiverCount o several (ls.map Node.content) =
        Binding.receiverCount o several ls := by
    rw [Binding.receiverCount, List.map_map, List.countP_map, Binding.receiverCount,
      List.countP_map]
    rfl
  simp only [decided, roots, own, named, count, List.length_map, List.map_eq_nil_iff]

theorem foretold_content (d : Document) (ns : List Node) :
    foretold d (ns.map Node.content) = foretold d ns := by
  have objects : (ns.map Node.content).findSome? (behavior? d.options) =
      ns.findSome? (behavior? d.options) := by
    rw [List.findSome?_map]
    rfl
  have blocks : (ns.map Node.content).filterMap (styleDependency? d) =
      ns.filterMap (styleDependency? d) := by
    rw [List.filterMap_map]
    rfl
  have wired : installFirst d (ns.map Node.content) = installFirst d ns := by
    simp only [installFirst, objects]
  simp only [foretold, decided_content, wired, blocks]

end Roots

namespace Wiring

theorem foretold_interleaved {ns ms : List Node} (same : Interleaved ns ms) (folder : Folder)
    (d : Document) : foretold folder d ns = foretold folder d ms := by
  have failures (o : Options) : ns.findSome? (Roots.fatal? o) = ms.findSome? (Roots.fatal? o) :=
    same.findSome?_eq .behavior fun _ => Roots.group_of_fatal
  simp only [foretold, failures, Roots.foretold_interleaved same]

theorem foretold_content (folder : Folder) (d : Document) (ns : List Node) :
    foretold folder d (ns.map Node.content) = foretold folder d ns := by
  have failures (o : Options) : (ns.map Node.content).findSome? (Roots.fatal? o) =
      ns.findSome? (Roots.fatal? o) := by
    rw [List.findSome?_map]
    rfl
  simp only [foretold, failures, Roots.foretold_content]

theorem told_contents (folder : Folder) {t : Tree} (built : Reachable t) (d : Document) :
    (run folder t d).told =
      foretold folder d (t.frontier.map fun id => (t.node id).content) := by
  rw [told_run folder (wellFormed_of_reachable built), ← foretold_content, List.map_map]
  rfl

/-- Two trees that hold the same elements, the same style tags and the same inline classes, each in
the same order, are told the same of, however these are mixed and wrapped. What is below them does
not matter. -/
theorem told_of_groups (folder : Folder) (filename : String) (o : Options) (t u : Tree)
    (built : Reachable t) (built' : Reachable u)
    (same : ∀ group, t.members group = u.members group) :
    (run folder t { filename := filename, options := o }).told =
      (run folder u { filename := filename, options := o }).told := by
  rw [told_contents folder built, told_contents folder built']
  exact foretold_interleaved same folder _

def appTab : Template := .element .custom "app-tab" [⟨"ref", .text "tab"⟩] [] 0 none

def lookBlock : Template := .element .html "style" [⟨"{ .a {} }", .bare⟩] [] 9 none

def paragraph : Template := .element .html "p" [] [.other (some "class") none [] 0] 18 none

def clickClass : Template := .other (some "class") (some "class { onClick() {} }") [] 27

def classFirst : Template := .root [clickClass, appTab, paragraph, lookBlock]

/-- The same with the class at the end, inside two wrappers and behind a comment. -/
def classLast : Template :=
  .root [
    .container [lookBlock, appTab] 3,
    .other none (some "<!-- -->") [] 5,
    .root [paragraph, .container [clickClass] 7]]

theorem classFirst_told_as_classLast :
    (∀ group, (ofTemplate classFirst).members group = (ofTemplate classLast).members group) ∧
      (run (Folder.working "/srv/site") (ofTemplate classFirst)
          { filename := "../index.marko" }).told =
        (run (Folder.working "/srv/site") (ofTemplate classLast)
          { filename := "../index.marko" }).told ∧
      (run (Folder.working "/srv/site") (ofTemplate classLast)
          { filename := "../index.marko" }).told.map
          (Option.map fun t => (t.decision, t.dependencies.length, t.constants.length)) =
        .ok (some (.bound 2 ["_r0"], 1, 1)) := by
  have same (group : Group) :
      (ofTemplate classFirst).members group = (ofTemplate classLast).members group := by
    rw [members_ofTemplate, members_ofTemplate]
    cases group <;> rfl
  have first := reachable_ofTemplate classFirst
  have last := reachable_ofTemplate classLast
  refine ⟨same, ?_, ?_⟩
  · exact told_of_groups (Folder.working "/srv/site") "../index.marko" {} _ _ first last same
  · rw [told_contents _ last, contents_ofTemplate]
    decide +kernel

end Wiring

end TemplateWiring
