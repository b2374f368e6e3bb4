import TemplateWiring.Proofs.Exchange.Nesting
import TemplateWiring.Proofs.Json.Variants

namespace TemplateWiring

open Json (Decoder Shape Slot Tagged Adjacent Case Variant Reading Layout Respects Tolerates
  tolerates_of_respects)

inductive Form where
  /-- Of what has no fields that may be left out, and of what is passed over. -/
  | plain
  | attr
  | attrs
  | template
  | templates
  | node (variant : Nat)
  | options
  | request
  | diagnostic
  | diagnostics
  | answer

namespace Form

def needed (name : String) (form : Form := plain) : Layout.Field Form := ⟨name, form, none⟩

def optional (name : String) : Layout.Field Form := ⟨name, plain, some .null⟩

def children : Layout.Field Form := ⟨"children", templates, some (.arr [])⟩

def pos : Layout.Field Form := ⟨"pos", plain, some (.int 0)⟩

def nodeNames : List String := ["TemplateRoot", "Container", "HtmlElement", "CustomTag", "Other"]

def nodeFields : (variant : Nat) → List (Layout.Field Form)
  | 0 => [children]
  | 1 => [children, pos]
  | 2 | 3 => [needed "tagName", ⟨"attributes", attrs, some (.arr [])⟩, children, pos,
      optional "bodyText"]
  | 4 => [optional "tagName", optional "tagString", children, pos]
  | _ => []

/-- Every option is that of a document without options when it is left out. -/
def optionFields : List (Layout.Field Form) :=
  match ({} : Options).toJson with
  | .obj ms => ms.map fun m => ⟨m.1, plain, some m.2⟩
  | _ => []

def fields : Form → Reading → List (Layout.Field Form)
  | attr, _ => [needed "name", ⟨"value", plain, some AttrValue.bare.toJson⟩]
  | template, r =>
    needed "type" ::
      match Json.variant? "type" nodeNames r with
      | some variant => nodeFields variant
      | none => []
  | node variant, _ => nodeFields variant
  | options, _ => optionFields
  | request, _ => [needed "filename", needed "tree" template, ⟨"options", options, some (.obj [])⟩]
  | diagnostic, _ =>
    [needed "code", needed "message", needed "rule", needed "file", needed "pos", optional "node"]
  | answer, _ =>
    [needed "tree" template, needed "skipped", optional "binding", optional "componentModule",
      optional "rendererModule", needed "dependencies", needed "staticVars",
      needed "diagnostics" diagnostics]
  | plain, _ | attrs, _ | templates, _ | diagnostics, _ => []

def item : Form → Form
  | attrs => attr
  | templates => template
  | diagnostics => diagnostic
  | _ => plain

def layout : Layout Form where
  plain := plain
  fields := fields
  item := item
  fields_plain _ := rfl
  item_plain := rfl

end Form

open Form (layout)
open Json.Decoder (Extends extends_map extends_list reads_none reads_string reads_word32
  respects_string respects_boolean respects_word32 respects_size respects_list respects_map
  respects_nullable)

theorem respects_optionalText {form : Form} :
    Respects layout form (Decoder.nullable Decoder.string) := respects_nullable respects_string

namespace AttrValue

theorem isFlat_content (name : String) (make : String → AttrValue) (bare : Option AttrValue) :
    Case.IsFlat ⟨name, fun source r => (Decoder.string source r).map make, bare⟩ := by
  intro source r v read
  obtain ⟨s, decoded, rfl⟩ := Json.ok_of_map read
  cases Decoder.string_ok decoded
  exact ⟨.str s, rfl, fun _ => rfl⟩

theorem respects : Respects layout .plain decode := by
  refine Adjacent.respects ?_
  simp only [adjacent, List.forall_mem_cons]
  exact ⟨isFlat_content _ _ _, isFlat_content _ _ _, Case.isFlat_constant _ _ _ _,
    List.forall_mem_nil _⟩

end AttrValue

theorem Attr.respects : Respects layout .attr decode := by
  refine Shape.respects (Shape.fits_of_matches ?_ fun _ => ?_)
  · simp [shape, Slot.required, Slot.defaulted]
  · exact .cons (Shape.matches_required respects_string)
      (.cons (Shape.matches_defaulted AttrValue.respects AttrValue.bare.reads rfl) .nil)

namespace Template

section node

variable {child : Decoder Template} {title : String} {fields : List (Slot Parts)}

theorem respects_variant {form : Form} {name : String} {make : Parts → Template}
    (commute : fields.Pairwise Slot.Commute)
    (all : ∀ r, List.Forall₂ (Shape.Matches layout ⟨title, {}, fields⟩) (layout.fields form r)
      fields) : Respects layout form (variant name title fields make).decode :=
  respects_map (Shape.respects (Shape.fits_of_matches commute all)) make

theorem matches_text {name : String} {store : Option String → Parts → Parts}
    (idle : store none {} = {}) :
    Shape.Matches layout ⟨title, {}, fields⟩ (Form.optional name)
      (Slot.defaulted name (Decoder.nullable Decoder.string) store) :=
  Shape.matches_defaulted respects_optionalText reads_none idle

theorem matches_pos :
    Shape.Matches layout ⟨title, {}, fields⟩ Form.pos Parts.posField :=
  Shape.matches_defaulted respects_word32 (reads_word32 0) rfl

theorem commute_element (child : Decoder Template) :
    (elementFields child).Pairwise Slot.Commute := by
  simp [elementFields, Parts.tagField, Parts.attrsField, Parts.childrenField, Parts.posField,
    Parts.bodyField, Slot.required, Slot.defaulted]

variable (inner : Respects layout .template child)
include inner

theorem matches_children :
    Shape.Matches layout ⟨title, {}, fields⟩ Form.children (Parts.childrenField child) :=
  Shape.matches_list (fun _ => rfl) inner rfl

theorem matches_element :
    List.Forall₂ (Shape.Matches layout ⟨title, {}, fields⟩) (Form.nodeFields 2)
      (elementFields child) := by
  have attributes : Shape.Matches layout ⟨title, {}, fields⟩
      ⟨"attributes", .attrs, some (.arr [])⟩ Parts.attrsField :=
    Shape.matches_list (fun _ => rfl) Attr.respects rfl
  exact .cons (Shape.matches_required respects_string) (.cons attributes
    (.cons (matches_children inner) (.cons matches_pos (.cons (matches_text rfl) .nil))))

theorem respects_node {k : Nat} {v : Variant Template}
    (known : (tagged child).variants[k]? = some v) : Respects layout (.node k) v.decode := by
  match k with
  | 0 =>
      cases known
      exact respects_variant (List.pairwise_singleton _ _) fun _ =>
        .cons (matches_children inner) .nil
  | 1 =>
      cases known
      refine respects_variant ?_ fun _ => .cons (matches_children inner) (.cons matches_pos .nil)
      simp [Parts.childrenField, Parts.posField, Slot.defaulted]
  | 2 | 3 =>
      cases known
      exact respects_variant (commute_element child) fun _ => matches_element inner
  | 4 =>
      cases known
      refine respects_variant ?_ fun _ => .cons (matches_text rfl) (.cons (matches_text rfl)
        (.cons (matches_children inner) (.cons matches_pos .nil)))
      simp [Parts.optionalTagField, Parts.openingField, Parts.childrenField, Parts.posField,
        Slot.defaulted]
  | _ + 5 => cases known

theorem respects_tagged : Respects layout .template (tagged child).decode := by
  refine Tagged.respects (fun k => .node k) (fun r k named => ?_) fun k v => respects_node inner
  refine Layout.Opens.of_cons .plain (fun b => ?_) rfl
  change Form.fields .template r = _
  change Json.variant? "type" Form.nodeNames r = some k at named
  rw [Form.fields, named]
  rfl

end node

theorem respects_decodeTo (n : Nat) : Respects layout .template (decodeTo n) := by
  induction n with
  | zero => exact respects_tagged fun _ _ _ _ _ _ failed => by cases failed
  | succ n ih => exact respects_tagged ih

section wider

variable {child other : Decoder Template} (wider : child.Extends other)
include wider

theorem extends_tagged : (tagged child).decode.Extends (tagged other).decode := by
  have children : (Parts.childrenField child).Extends (Parts.childrenField other) :=
    ⟨rfl, rfl, rfl, extends_map (extends_list wider) _⟩
  have variants {name title : String} {fields fields' : List (Slot Parts)}
      {make : Parts → Template} (all : List.Forall₂ Slot.Extends fields fields') :
      (variant name title fields make).Extends (variant name title fields' make) := by
    have wide : Decoder.Extends (Shape.mk title ({} : Parts) fields).decode
        (Shape.mk title ({} : Parts) fields').decode := Shape.extends_decode all rfl
    exact ⟨rfl, extends_map wide make⟩
  refine Tagged.extends_decode rfl (.cons (variants ?_) (.cons (variants ?_)
    (.cons (variants ?_) (.cons (variants ?_) (.cons (variants ?_) .nil)))))
  all_goals simp [elementFields, children, Slot.Extends.refl]

end wider

theorem extends_decodeTo {n m : Nat} (deeper : n ≤ m) : (decodeTo m).Extends (decodeTo n) := by
  induction n generalizing m with
  | zero =>
      cases m with
      | zero => exact fun _ _ _ => id
      | succ m => exact extends_tagged fun _ _ _ failed => by cases failed
  | succ n ih =>
      cases m with
      | zero => cases deeper
      | succ m => exact extends_tagged (ih (Nat.le_of_succ_le_succ deeper))

theorem respects : Respects layout .template decode := by
  intro source r r' t step admits read
  -- What is written out may be nested deeper, and is decoded down to its own depth.
  exact extends_decodeTo step.depth_le source r' t
    (respects_decodeTo r.depth source r r' t step admits read)

end Template

theorem Options.respects : Respects layout .options decode := by
  have text {name value : String} {store : String → Options → Options}
      (idle : store value {} = {}) :
      Shape.Matches layout shape ⟨name, .plain, some (.str value)⟩ (field name store) :=
    Shape.matches_defaulted respects_string (reads_string value) idle
  refine Shape.respects (Shape.fits_of_matches ?_ fun _ => ?_)
  · simp [shape, field, Slot.defaulted]
  · exact .cons (text rfl) (.cons (text rfl) (.cons (text rfl) (.cons (text rfl)
      (.cons (text rfl) (.cons (text rfl) .nil)))))

theorem respects_textField {σ : Type} {form : Form} {name : String} {store : String → σ → σ} :
    Respects layout form (Slot.required name Decoder.string store).decode :=
  Slot.respects_required respects_string

namespace Module

theorem respects_file : Respects layout .plain fileShape.decode := by
  refine Shape.respects_plain ?_ ?_
  · simp [fileShape, filenameField, requirePathField, Slot.required]
  · simp only [fileShape, List.forall_mem_cons]
    exact ⟨respects_textField, respects_textField, List.forall_mem_nil _⟩

theorem respects_inline : Respects layout .plain inlineShape.decode := by
  refine Shape.respects_plain ?_ ?_
  · simp [inlineShape, constantField, filenameField, requirePathField, Slot.required]
  · simp only [inlineShape, List.forall_mem_cons]
    exact ⟨respects_textField, respects_textField, respects_textField, List.forall_mem_nil _⟩

theorem respects : Respects layout .plain decode := by
  refine Tagged.respects_plain ?_
  simp only [tagged, List.forall_mem_cons]
  exact ⟨respects_map respects_file _, respects_map respects_inline _, List.forall_mem_nil _⟩

end Module

theorem StyleBlock.respects : Respects layout .plain shape.decode := by
  refine Shape.respects_plain ?_ ?_
  · simp [shape, Slot.required]
  · simp only [shape, List.forall_mem_cons]
    exact ⟨respects_textField, respects_textField, respects_textField, respects_textField,
      List.forall_mem_nil _⟩

namespace Dependency

theorem respects : Respects layout .plain decode := by
  intro source r r' d step admits read
  obtain ⟨⟨⟩, whole, onward⟩ := Json.ok_of_bind read
  split at onward
  next =>
    have collection := step.collection
    cases collection
  next =>
    split at onward
    next b block =>
      cases onward
      exact decode_style (step.readWhole admits whole)
        (StyleBlock.respects .held _ _ b step trivial block)
    next => cases onward

end Dependency

theorem Constant.respects : Respects layout .plain decode := by
  refine Shape.respects_plain ?_ ?_
  · simp [shape, Slot.required]
  · simp only [shape, List.forall_mem_cons]
    exact ⟨respects_textField, respects_textField, List.forall_mem_nil _⟩

theorem Diagnostic.respects : Respects layout .diagnostic decode := by
  refine Shape.respects (Shape.fits_of_matches ?_ fun _ => ?_)
  · simp [shape, Slot.required, Slot.nullable]
  · have text {name : String} {store : String → Diagnostic → Diagnostic} :
        Shape.Matches layout shape (Form.needed name) (Slot.required name Decoder.string store) :=
      Shape.matches_required respects_string
    exact .cons text (.cons text (.cons text (.cons text
      (.cons (Shape.matches_required respects_word32)
        (.cons (Shape.matches_nullable respects_size rfl) .nil)))))

namespace Decision

theorem respects_bound : Respects layout .plain boundShape.decode := by
  refine Shape.respects_plain ?_ ?_
  · simp [boundShape, Slot.required]
  · simp only [boundShape, List.forall_mem_cons]
    exact ⟨Slot.respects_required respects_size,
      Slot.respects_required (respects_list (fun _ => rfl) respects_string), List.forall_mem_nil _⟩

theorem respects : Respects layout .plain decode := by
  refine Tagged.respects_plain ?_
  simp only [tagged, List.forall_mem_cons]
  exact ⟨Variant.respects_constant _ _, Variant.respects_constant _ _,
    Variant.respects_constant _ _, Variant.respects_constant _ _,
    respects_map respects_bound _, List.forall_mem_nil _⟩

end Decision

theorem Request.respects : Respects layout .request decode := by
  have none : Decoder.Reads Options.decode (.obj []) {} :=
    @Shape.reads_empty Options Options.shape (by decide)
  refine Shape.respects (Shape.fits_of_matches ?_ fun _ => ?_)
  · simp [shape, Slot.required, Slot.defaulted]
  · exact .cons (Shape.matches_required respects_string)
      (.cons (Shape.matches_required Template.respects)
        (.cons (Shape.matches_defaulted Options.respects none rfl) .nil))

theorem Answer.respects : Respects layout .answer decode := by
  have module {name : String} {store : Option Module → Answer → Answer}
      (idle : store none shape.blank = shape.blank) :
      Shape.Matches layout shape (Form.optional name) (Slot.nullable name Module.decode store) :=
    Shape.matches_nullable Module.respects idle
  have items {α : Type} {form : Form} {name : String} {d : Decoder α}
      {store : List α → Answer → Answer} (bare : ∀ r, layout.fields form r = [])
      (respects : Respects layout (layout.item form) d) :
      Shape.Matches layout shape (Form.needed name form)
        (Slot.required name (Decoder.list d) store) :=
    Shape.matches_required (respects_list bare respects)
  refine Shape.respects (Shape.fits_of_matches ?_ fun _ => ?_)
  · simp [shape, Slot.required, Slot.nullable]
  · exact .cons (Shape.matches_required Template.respects)
      (.cons (Shape.matches_required respects_boolean)
        (.cons (Shape.matches_nullable Decision.respects rfl)
          (.cons (module rfl) (.cons (module rfl)
            (.cons (items (fun _ => rfl) Dependency.respects)
              (.cons (items (fun _ => rfl) Constant.respects)
                (.cons (items (fun _ => rfl) Diagnostic.respects) .nil)))))))

/-- What is accepted is accepted with its members in another order and with its defaults written
out, and stands for the same value. -/
theorem rewritten_values_decode_alike :
    Tolerates layout .plain AttrValue.decode ∧
      Tolerates layout .attr Attr.decode ∧
      Tolerates layout .template Template.decode ∧
      (∀ k v, (Template.tagged Template.decode).variants[k]? = some v →
        Tolerates layout (.node k) v.decode) ∧
      Tolerates layout .plain Module.decode ∧
      Tolerates layout .plain StyleBlock.shape.decode ∧
      Tolerates layout .plain Dependency.decode ∧
      Tolerates layout .plain Constant.decode ∧
      Tolerates layout .diagnostic Diagnostic.decode ∧
      Tolerates layout .plain Decision.decode ∧
      Tolerates layout .options Options.decode ∧
      Tolerates layout .request Request.decode ∧
      Tolerates layout .answer Answer.decode :=
  ⟨tolerates_of_respects AttrValue.respects, tolerates_of_respects Attr.respects,
    tolerates_of_respects Template.respects,
    fun _ _ known => tolerates_of_respects (Template.respects_node Template.respects known),
    tolerates_of_respects Module.respects, tolerates_of_respects StyleBlock.respects,
    tolerates_of_respects Dependency.respects, tolerates_of_respects Constant.respects,
    tolerates_of_respects Diagnostic.respects, tolerates_of_respects Decision.respects,
    tolerates_of_respects Options.respects, tolerates_of_respects Request.respects,
    tolerates_of_respects Answer.respects⟩

def tersePage : String :=
  "\x7b\"type\": \"Container\", \"children\": " ++
    "[\x7b\"tagName\": \"p\", \"type\": \"HtmlElement\"\x7d]\x7d"

/-- The page with its members in another order, and with the children of the paragraph. -/
def turnedPage : String :=
  "\x7b\"children\": [\x7b\"children\": [], \"type\": \"HtmlElement\", \"tagName\": \"p\"\x7d], " ++
    "\"type\": \"Container\"\x7d"

theorem rewritten_page : layout.Rewritten .template tersePage turnedPage := by
  let node (name : String) : Json.Key × Reading := (.name "type", .str name)
  let tag : Json.Key × Reading := (.name "tagName", .str "p")
  let page (paragraph : List (Json.Key × Reading)) : List (Json.Key × Reading) :=
    [node "Container", (.name "children", .list [.object paragraph none] none)]
  have inside {ms ms' : List (Json.Key × Reading)}
      (step : layout.Step .template (.object ms none) (.object ms' none)) :
      layout.Step .template (.object (page ms) none) (.object (page ms') none) :=
    @Layout.Step.member _ _ _ [node "Container"] [] _ _ _ _
      (@Layout.Step.item _ _ _ [] [] _ _ _ step)
  have swapped : layout.Step .template (.object [tag, node "HtmlElement"] none)
      (.object [node "HtmlElement", tag] none) := .reorder (.swap _ _ _)
  have filled : layout.Step .template (.object [node "HtmlElement", tag] none)
      (.object [(.name "children", .list [] none), node "HtmlElement", tag] none) :=
    @Layout.Step.fill _ _ _ _ _ Form.children _ (by rfl) rfl (by decide)
  have turned : layout.Step .template
      (.object (page [(.name "children", .list [] none), node "HtmlElement", tag]) none)
      (.object (page [(.name "children", .list [] none), node "HtmlElement", tag]).reverse none) :=
    .reorder (.swap _ _ _)
  have steps := Relation.ReflTransGen.single (inside swapped)
  exact ⟨_, _, by cbv, by cbv, (steps.tail (inside filled)).tail turned⟩

theorem turnedPage_decodes :
    layout.Rewritten .template tersePage turnedPage ∧
      (Reading.ofText turnedPage).1.depth ≤ Json.maxDepth ∧
      Json.decodeText Template.decode turnedPage =
        .ok (.container [.element .html "p" [] [] 0 none] 0) := by
  obtain ⟨-, -, templates, -⟩ := rewritten_values_decode_alike
  have terse : Json.decodeText Template.decode tersePage =
      .ok (.container [.element .html "p" [] [] 0 none] 0) := by cbv
  have depth : (Reading.ofText turnedPage).1.depth = 4 := by cbv
  have shallow : (Reading.ofText turnedPage).1.depth ≤ Json.maxDepth := by
    rw [depth]
    decide
  exact ⟨rewritten_page, shallow, templates _ _ _ terse rewritten_page shallow⟩

end TemplateWiring
