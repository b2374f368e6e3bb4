import TemplateWiring.Inline
import TemplateWiring.Proofs.Document

/-! The conversion of an inline class is all or nothing. It is written out once more with every
write made at once and none taken back, so that what each way out leaves behind can be seen: the
constant is pooled before the slots are filled, and the node leaves the tree last. -/

namespace TemplateWiring.Inline

/-- Pools the object of a class and then fills the slots, the component slot only where there is
none yet. -/
def installInPlace (d : Document) (object : String) : Document × Option Failure :=
  let (pooled, constant) := d.addConstant d.options.componentConstantName object
  let m := module d constant
  match pooled.component with
  | some _ => (pooled.setRenderer m, none)
  | none =>
    match pooled.setComponent m with
    | .ok filled => (filled.setRenderer m, none)
    | .error e => (pooled, some e)

/-- A slot that is empty is never refused, and one that is not is left alone. -/
theorem installInPlace_eq (d : Document) (object : String) :
    installInPlace d object = (install d object, none) := by
  cases slot : d.component with
  | some m =>
      simp only [installInPlace, install, Document.addConstant, Document.setRenderer, slot,
        Option.getD_some]
  | none =>
      simp only [installInPlace, install, Document.addConstant, Document.setComponent,
        Document.setRenderer, slot, Option.getD_none]

def convertInPlace (object : Except Behavior.Refusal String) (n : Node) (id : Nat) (d : Document) :
    Document × Except Failure Outcome :=
  match object with
  | .error (.malformed complaint offset) =>
    (reportMalformed d id n.pos complaint offset, .ok .diagnosed)
  | .error .derived => (d.reportNode Code.classExtends derivedText id n.pos, .ok .diagnosed)
  | .error (.fatal e) => (d, .error e)
  | .ok object =>
    match d.renderer with
    | some other =>
      (d.reportNode Code.inlineAndExternal (conflictText other) id n.pos, .ok .diagnosed)
    | none =>
      match installInPlace d object with
      | (d, none) => (d, .ok .applied)
      | (d, some e) => (d, .error e)

theorem convertInPlace_eq (object : Except Behavior.Refusal String) (n : Node) (id : Nat)
    (d : Document) : convertInPlace object n id d =
      match convertTo object n id d with
      | .ok (after, outcome) => (after, .ok outcome)
      | .error e => (d, .error e) := by
  cases object with
  | error refusal => cases refusal <;> rfl
  | ok object =>
      cases slot : d.renderer with
      | some other => simp only [convertInPlace, convertTo, slot]
      | none => simp only [convertInPlace, convertTo, slot, installInPlace_eq]

def reading (t : Tree) (id : Nat) (d : Document) : Except Behavior.Refusal String :=
  Behavior.ofClass ((t.node id).opening.getD "") d.options.createHookName

structure Conversion where
  tree : Tree
  document : Document
  result : Except Failure Outcome

def leave (t : Tree) (id : Nat) : Document × Except Failure Outcome → Conversion
  | (document, .ok outcome) => ⟨t.detachAll (outcome.leaving id), document, .ok outcome⟩
  | (document, .error e) => ⟨t, document, .error e⟩

def stepInPlace (t : Tree) (id : Nat) (d : Document) : Conversion :=
  leave t id (convertInPlace (reading t id d) (t.node id) id d)

theorem step_eq_inPlace (t : Tree) (id : Nat) (d : Document) :
    step t id d = (stepInPlace t id d).result.map fun outcome =>
      ((stepInPlace t id d).tree, (stepInPlace t id d).document, outcome) := by
  have read : convert (t.node id) id d = convertTo (reading t id d) (t.node id) id d := rfl
  delta step
  rw [read, stepInPlace, convertInPlace_eq]
  cases convertTo (reading t id d) (t.node id) id d with
  | error e => rfl
  | ok converted => rfl

inductive Exit (t : Tree) (id : Nat) (d : Document) : Conversion → Prop
  | malformed (complaint : String) (offset : Option Nat)
      (read : reading t id d = .error (.malformed complaint offset)) :
      Exit t id d
        ⟨t, reportMalformed d id (t.node id).pos complaint offset, .ok .diagnosed⟩
  | derived (read : reading t id d = .error .derived) :
      Exit t id d
        ⟨t, d.reportNode Code.classExtends derivedText id (t.node id).pos, .ok .diagnosed⟩
  | fatal (failure : Failure) (read : reading t id d = .error (.fatal failure)) :
      Exit t id d ⟨t, d, .error failure⟩
  | conflict (object : String) (other : Module) (read : reading t id d = .ok object)
      (taken : d.renderer = some other) :
      Exit t id d
        ⟨t, d.reportNode Code.inlineAndExternal (conflictText other) id (t.node id).pos,
          .ok .diagnosed⟩
  | installed (object : String) (read : reading t id d = .ok object) (free : d.renderer = none) :
      Exit t id d ⟨t.detach id, install d object, .ok .applied⟩

theorem stepInPlace_exit (t : Tree) (id : Nat) (d : Document) :
    Exit t id d (stepInPlace t id d) := by
  rw [stepInPlace]
  generalize read : reading t id d = object
  rcases object with (⟨complaint, offset⟩ | _ | failure) | object
  · exact .malformed complaint offset read
  · exact .derived read
  · exact .fatal failure read
  · cases slot : d.renderer with
    | some other =>
        simp only [convertInPlace, slot]
        exact .conflict object other read slot
    | none =>
        simp only [convertInPlace, slot, installInPlace_eq]
        exact .installed object read slot

theorem reportNode_report (d : Document) (code message : String) (id : Nat) (pos : UInt32) :
    ∃ diagnostic, d.reportNode code message id pos =
      { d with diagnostics := d.diagnostics ++ [diagnostic] } := ⟨_, rfl⟩

theorem reportMalformed_report (d : Document) (id : Nat) (pos : UInt32) (complaint : String)
    (offset : Option Nat) :
    ∃ diagnostic, reportMalformed d id pos complaint offset =
      { d with diagnostics := d.diagnostics ++ [diagnostic] } := by
  cases offset with
  | some offset => exact ⟨_, rfl⟩
  | none => exact reportNode_report d _ _ id pos

def constantName (d : Document) : String :=
  Document.freshName d.constants d.options.componentConstantName

theorem constantName_fresh (d : Document) : ∀ c ∈ d.constants, c.name ≠ constantName d := by
  intro c listed same
  have taken := Document.pooled_iff.mpr ⟨c, listed, same⟩
  rw [constantName, Document.pooled_freshName] at taken
  cases taken

theorem install_eq (d : Document) (object : String) :
    install d object =
      { d with
        constants := d.constants ++ [⟨constantName d, object⟩]
        component :=
          d.component.or (some (.inline (constantName d) d.filename ("./" ++ d.basename)))
        renderer := some (.inline (constantName d) d.filename ("./" ++ d.basename)) } := by
  cases slot : d.component with
  | none => simp [install, module, Document.addConstant, constantName, slot]
  | some m => simp [install, module, Document.addConstant, constantName, slot]

/-- A conversion writes all that it stands for or nothing. A class that cannot be kept leaves tree
and document as they were; one that is reported adds its one report to the document; one that is
converted leaves the tree, and adds its object under a new name and fills the slots. Only an object
finds a slot taken: what is wrong with the class itself comes first. -/
theorem step_atomic (t : Tree) (id : Nat) (d : Document) :
    let c := stepInPlace t id d
    let pos := (t.node id).pos
    step t id d = c.result.map (fun outcome => (c.tree, c.document, outcome)) ∧
      (∀ failure, c.result = .error failure → c.tree = t ∧ c.document = d) ∧
      (c.result = .ok .diagnosed → c.tree = t ∧ ∃ diagnostic,
        c.document = { d with diagnostics := d.diagnostics ++ [diagnostic] }) ∧
      (c.result = .ok .applied → c.tree = t.detach id ∧
        (∀ earlier ∈ d.constants, earlier.name ≠ constantName d) ∧
        ∃ object, reading t id d = .ok object ∧
          c.document =
            { d with
              constants := d.constants ++ [⟨constantName d, object⟩]
              component :=
                d.component.or (some (.inline (constantName d) d.filename ("./" ++ d.basename)))
              renderer := some (.inline (constantName d) d.filename ("./" ++ d.basename)) }) ∧
      c.result ≠ .ok .skipped ∧
      (c.result = .ok .applied ↔ (∃ object, reading t id d = .ok object) ∧ d.renderer = none) ∧
      (∀ complaint offset, reading t id d = .error (.malformed complaint offset) →
        c.result = .ok .diagnosed ∧ c.document = reportMalformed d id pos complaint offset) ∧
      (reading t id d = .error .derived →
        c.result = .ok .diagnosed ∧
          c.document = d.reportNode Code.classExtends derivedText id pos) ∧
      (∀ failure, reading t id d = .error (.fatal failure) → c.result = .error failure) ∧
      (∀ object other, reading t id d = .ok object → d.renderer = some other →
        c.result = .ok .diagnosed ∧
          c.document = d.reportNode Code.inlineAndExternal (conflictText other) id pos) := by
  intro c pos
  refine ⟨step_eq_inPlace t id d, ?_⟩
  have exit : Exit t id d c := stepInPlace_exit t id d
  clear_value c
  cases exit with
  | malformed complaint offset read => simp [read, reportMalformed_report, pos]
  | derived read => simp [read, reportNode_report, pos]
  | fatal failure read => simp [read]
  | conflict object other read taken =>
      have reported := reportNode_report d Code.inlineAndExternal (conflictText other) id pos
      simpa [read, taken, pos] using reported
  | installed object read free =>
      have named := constantName_fresh d
      simpa [read, free, install_eq] using named

def classTree (text : String) : Tree :=
  .ofTemplate (.root [.other (some "class") (some text) [] 0])

def splitDocument : Document where
  filename := "/app/index.marko"
  component := some (.file "/app/component-browser.js" "./component-browser")
  constants := [⟨"marko_component", "\x7b\x7d"⟩]

/-- A class is converted beside that component. Once it is, a second class is one too many; a class
with a parent is reported as such all the same. -/
theorem splitDocument_conversion :
    let c := stepInPlace (classTree "class \x7b onClick() \x7b\x7d \x7d") 1 splitDocument
    let second := stepInPlace (classTree "class \x7b\x7d") 1 c.document
    let derived := stepInPlace (classTree "class extends Base \x7b\x7d") 1 c.document
    c.result = .ok .applied ∧ c.document.component = splitDocument.component ∧
      c.document.renderer =
        some (.inline "marko_component_1" "/app/index.marko" "./index.marko") ∧
      c.document.constants.map (·.name) = ["marko_component", "marko_component_1"] ∧
      second.result = .ok .diagnosed ∧ second.document.constants = c.document.constants ∧
      derived.document =
        c.document.reportNode Code.classExtends derivedText 1 0 := by
  intro c second derived
  obtain ⟨-, -, -, applied, -, converts, -⟩ :=
    step_atomic (classTree "class \x7b onClick() \x7b\x7d \x7d") 1 splitDocument
  have onClick : reading (classTree "class \x7b onClick() \x7b\x7d \x7d") 1 splitDocument =
      .ok "\x7b onClick() \x7b\x7d \x7d" := by decide +kernel
  have done : c.result = .ok .applied := converts.mpr ⟨⟨_, onClick⟩, rfl⟩
  obtain ⟨-, -, object, read, document⟩ := applied done
  rw [onClick] at read
  cases read
  change c.document = _ at document
  have empty : reading (classTree "class \x7b\x7d") 1 c.document = .ok "\x7b\x7d" := by
    rw [document]
    decide +kernel
  have parent : reading (classTree "class extends Base \x7b\x7d") 1 c.document =
      .error .derived := by
    rw [document]
    decide +kernel
  have taken : c.document.renderer =
      some (.inline (constantName splitDocument) "/app/index.marko" "./index.marko") := by
    rw [document]
    rfl
  obtain ⟨-, -, -, -, -, -, -, -, -, conflict⟩ :=
    step_atomic (classTree "class \x7b\x7d") 1 c.document
  obtain ⟨refused, reported⟩ := conflict _ _ empty taken
  obtain ⟨-, -, -, -, -, -, -, extending, -⟩ :=
    step_atomic (classTree "class extends Base \x7b\x7d") 1 c.document
  refine ⟨done, by rw [document]; rfl, ?_, ?_, refused, by rw [reported]; rfl,
    (extending parent).2⟩
  · rw [taken]
    decide +kernel
  · rw [document]
    decide +kernel

end TemplateWiring.Inline
