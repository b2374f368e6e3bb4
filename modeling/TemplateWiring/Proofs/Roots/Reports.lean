import TemplateWiring.Proofs.Behavior.Entries
import TemplateWiring.Proofs.Roots.Classes

namespace TemplateWiring.Roots

open TemplateWiring.Tree

def styleComplaint? (d : Document) (n : Node) (id : Nat) : Option Diagnostic :=
  match Style.read n with
  | .unsupported name =>
    some (.atNode Code.styleAttribute
      ("Unsupported attribute on the component style tag: " ++ name) d.filename id n.pos)
  | .plain | .block .. => none

/-- What is wrong with an inline class, by what becomes of it. One that becomes an object is in
conflict with a renderer that is known. -/
def objectComplaint? (d : Document) (n : Node) (id : Nat) :
    Except Behavior.Refusal String → Option Diagnostic
  | .error (.malformed complaint (some offset)) =>
    some (.atPos Code.classSyntax (Inline.malformedText complaint) d.filename
      (Inline.shifted n.pos offset))
  | .error (.malformed complaint none) =>
    some (.atNode Code.classSyntax (Inline.malformedText complaint) d.filename id n.pos)
  | .error .derived => some (.atNode Code.classExtends Inline.derivedText d.filename id n.pos)
  | .error (.fatal _) => none
  | .ok _ =>
    d.renderer.map fun other =>
      .atNode Code.inlineAndExternal (Inline.conflictText other) d.filename id n.pos

def classComplaint? (d : Document) (n : Node) (id : Nat) : Option Diagnostic :=
  objectComplaint? d n id (Behavior.ofClass (n.opening.getD "") d.options.createHookName)

def complaint? (d : Document) (n : Node) (id : Nat) : Option Diagnostic :=
  if n.kind == .element && !bindsItself d.options n && n.isTag "style" then styleComplaint? d n id
  else if n.kind == .other && n.isTag "class" then classComplaint? d n id
  else none

variable {s : Search} {n : Node} {id : Nat} {v : Visit Search Failure} {d later : Document}

theorem complaint?_of_style (kind : n.kind = .element) (free : bindsItself d.options n = false)
    (tag : n.isTag "style" = true) : complaint? d n id = styleComplaint? d n id := by
  simp [complaint?, kind, free, tag]

theorem complaint?_of_class (kind : n.kind = .other) (tag : n.isTag "class" = true) :
    complaint? d n id = classComplaint? d n id := by
  simp [complaint?, kind, tag]

/-- A report on a node. One that does not name the node is on a class that is not read to its end,
and gives the place where the reading stopped. -/
inductive Concerns (n : Node) (id : Nat) (x : Diagnostic) : Prop
  | node (named : x.node = some id) (pos : x.pos = n.pos)
  | place (fault : Script.Fault) (offset : Nat) (unnamed : x.node = none)
      (kind : n.kind = .other) (tag : n.isTag "class" = true) (code : x.code = Code.classSyntax)
      (parsed : Script.parse (Behavior.wrapped (n.opening.getD "")) = .error fault)
      (start : offset = min (fault.offset - 1) (n.opening.getD "").utf8ByteSize)
      (pos : x.pos.toNat = min (n.pos.toNat + offset) 4294967295)

theorem Concerns.names {x : Diagnostic} (concerns : Concerns n id x) :
    ∀ other ∈ x.node, other = id := by
  intro other held
  cases concerns with
  | node named =>
      rw [named] at held
      exact (Option.mem_some.mp held).symm
  | place _ _ unnamed =>
      rw [unnamed] at held
      cases held

theorem toNat_shifted (pos : UInt32) (offset : Nat) :
    (Inline.shifted pos offset).toNat = min (pos.toNat + offset) 4294967295 := by
  have inside : min (pos.toNat + offset) 4294967295 < UInt32.size := by
    rw [UInt32.size]
    omega
  rw [Inline.shifted, Nat.toUInt32_eq, UInt32.toNat_ofNat_of_lt' inside]

/-- Where a class is read to its end, no place is known for what is wrong with it. -/
theorem unplaced_of_members {hook complaint : String} {parent : Option Script.Term}
    {members : List Script.Term} {offset : Option Nat}
    (found : Behavior.ofMembers hook parent members = .error (.malformed complaint offset)) :
    offset = none := by
  rw [Behavior.ofMembers] at found
  split at found
  · cases found
  · split at found
    · cases found
    next texts read =>
      rcases Behavior.serialize_cases (Behavior.objectText texts) with
        ⟨text, done⟩ | ⟨other, failed⟩
      · rw [done] at found
        cases found
      · rw [failed] at found
        cases found
        rfl

theorem fault_of_place {source hook complaint : String} {offset : Nat}
    (found : Behavior.ofClass source hook = .error (.malformed complaint (some offset))) :
    ∃ fault, Script.parse (Behavior.wrapped source) = .error fault ∧
      offset = min (fault.offset - 1) source.utf8ByteSize := by
  unfold Behavior.ofClass at found
  rw [← Behavior.wrapped] at found
  cases parsed : Script.parse (Behavior.wrapped source) with
  | error fault =>
      rw [parsed] at found
      cases found
      exact ⟨fault, rfl, rfl⟩
  | ok items =>
      rw [parsed] at found
      dsimp only at found
      split at found
      · cases found
      · cases unplaced_of_members found

theorem concerns_of_complaint {x : Diagnostic}
    (complaint : complaint? d n id = some x) : Concerns n id x := by
  rw [complaint?] at complaint
  split at complaint
  · rw [styleComplaint?] at complaint
    split at complaint <;> cases complaint
    exact .node rfl rfl
  · split at complaint
    next held =>
      simp only [Bool.and_eq_true, beq_iff_eq] at held
      rw [classComplaint?] at complaint
      unfold objectComplaint? at complaint
      split at complaint
      next found =>
        cases complaint
        obtain ⟨fault, parsed, start⟩ := fault_of_place found
        exact .place fault _ rfl held.1 held.2 rfl parsed start (toNat_shifted _ _)
      · cases complaint
        exact .node rfl rfl
      · cases complaint
        exact .node rfl rfl
      · cases complaint
      · obtain ⟨other, -, rfl⟩ := Option.map_eq_some_iff.mp complaint
        exact .node rfl rfl
    next => cases complaint

theorem diagnostics_step (step : Step s n id v) :
    v.state.document.diagnostics =
      s.document.diagnostics ++ (complaint? s.document n id).toList := by
  have silent (none : complaint? s.document n id = none) : s.document.diagnostics =
      s.document.diagnostics ++ (complaint? s.document n id).toList := by
    rw [none, Option.toList_none, List.append_nil]
  cases step with
  | wrapper kind =>
      apply silent
      cases other : n.kind <;> simp [complaint?, other, NodeKind.isWrapper] at kind ⊢
  | custom kind => exact silent (by simp [complaint?, kind])
  | bound kind own => exact silent (by simp [complaint?, kind, own])
  | element kind free tag => exact silent (by simp [complaint?, kind, tag])
  | plainStyle kind free tag reading =>
      exact silent (by rw [complaint?_of_style kind free tag, styleComplaint?, reading])
  | refusedStyle name kind free tag reading =>
      rw [complaint?_of_style kind free tag, styleComplaint?, reading]
      rfl
  | takenStyle language code kind free tag reading =>
      exact silent (by rw [complaint?_of_style kind free tag, styleComplaint?, reading])
  | bystander kind tag => exact silent (by simp [complaint?, kind, tag])
  | malformed complaint offset kind tag found =>
      rw [complaint?_of_class kind tag, classComplaint?, found]
      cases offset <;> rfl
  | derived kind tag found =>
      rw [complaint?_of_class kind tag, classComplaint?, found]
      rfl
  | fatal failure kind tag found =>
      exact silent (by rw [complaint?_of_class kind tag, classComplaint?, found]; rfl)
  | conflict object other kind tag found taken =>
      rw [complaint?_of_class kind tag, classComplaint?, found, objectComplaint?, taken]
      rfl
  | installed object kind tag found vacant =>
      apply silent
      rw [complaint?_of_class kind tag, classComplaint?, found, objectComplaint?, vacant]
      rfl

/-- What a document keeps while it is searched: its name and options, and a renderer once one is
known. -/
structure Follows (d later : Document) : Prop where
  filename : later.filename = d.filename
  options : later.options = d.options
  renderer : ∀ m, d.renderer = some m → later.renderer = some m

theorem Follows.refl (d : Document) : Follows d d := ⟨rfl, rfl, fun _ known => known⟩

theorem Follows.trans {between : Document} (first : Follows d between)
    (second : Follows between later) : Follows d later := by
  constructor
  · exact second.filename.trans first.filename
  · exact second.options.trans first.options
  · exact fun m known => second.renderer m (first.renderer m known)

theorem follows_yield (yield : Yield s n id v) : Follows s.document v.state.document := by
  cases yield with
  | nothing _ _ _ _ _ document =>
      rw [document]
      exact ⟨rfl, rfl, fun _ known => known⟩
  | style _ _ _ _ _ document =>
      rw [document]
      exact ⟨rfl, rfl, fun _ known => known⟩
  | object _ _ _ vacant _ document =>
      rw [document]
      refine ⟨rfl, rfl, fun m known => ?_⟩
      rw [vacant] at known
      cases known

theorem follows_sweep (t : Tree) (ids : List Nat) (s : Search) (gone : List Nat) :
    Follows s.document (Walk.sweep visit t s gone ids).state.document :=
  sweep_keeps (P := Follows s.document)
    (fun _ _ _ _ yield reached => reached.trans (follows_yield yield)) t ids s gone (.refl _)

/-- What is wrong with a node stays so later on, unless the node is a class that can still be
installed. -/
theorem complaint?_later (follows : Follows d later)
    (settled : d.renderer = none → behavior? d.options n = none) :
    complaint? later n id = complaint? d n id := by
  have style : styleComplaint? later n id = styleComplaint? d n id := by
    rw [styleComplaint?, styleComplaint?, follows.filename]
  have class_ (kind : n.kind = .other) (tag : n.isTag "class" = true) :
      classComplaint? later n id = classComplaint? d n id := by
    rw [classComplaint?, classComplaint?, follows.options]
    cases found : Behavior.ofClass (n.opening.getD "") d.options.createHookName with
    | error refusal =>
        cases refusal with
        | malformed complaint offset =>
            cases offset <;> simp only [objectComplaint?, follows.filename]
        | derived => simp only [objectComplaint?, follows.filename]
        | fatal failure => rfl
    | ok object =>
        rw [objectComplaint?, objectComplaint?, follows.filename]
        cases slot : d.renderer with
        | some other => rw [follows.renderer other slot]
        | none =>
            have none := settled slot
            rw [behavior?_of_class kind tag found] at none
            cases none
  simp only [complaint?, follows.options, style]
  split
  · rfl
  · split
    next held =>
      simp only [Bool.and_eq_true, beq_iff_eq] at held
      exact class_ held.1 held.2
    next => rfl

theorem complaint?_of_detach (step : Step s n id v) (leaves : v.detach ≠ []) :
    complaint? s.document n id = none := by
  have reported := diagnostics_step step
  have alone (same : v.state.document.diagnostics = s.document.diagnostics) :
      complaint? s.document n id = none := by
    rw [same] at reported
    simpa using reported
  cases step_yield step with
  | nothing _ _ _ _ detach => exact absurd detach leaves
  | style _ _ _ _ _ document => exact alone (by rw [document]; rfl)
  | object _ _ _ _ _ document => exact alone (by rw [document]; rfl)

end TemplateWiring.Roots
