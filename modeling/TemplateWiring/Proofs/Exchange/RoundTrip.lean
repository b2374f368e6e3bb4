import TemplateWiring.Exchange.Pass
import TemplateWiring.Proofs.Json.Records
import TemplateWiring.Proofs.Template.Numbered

namespace TemplateWiring

open Json (Decoder Slot Shape Tagged Adjacent Variant Stores)
open Json.Decoder (Reads reads_string reads_boolean reads_word32 reads_size reads_none reads_some
  reads_list)

theorem reads_optionalText (text : Option String) :
    Reads (Decoder.nullable Decoder.string) (optionalText text) text := by
  cases text with
  | none => exact reads_none
  | some s => exact reads_some (reads_string s) nofun

theorem AttrValue.reads (v : AttrValue) : Reads decode v.toJson v := by
  have distinct : (adjacent.cases.map (·.name)).Nodup := by decide
  cases v with
  | text s =>
      exact Adjacent.reads_content distinct (.head _) (by decide)
        ((reads_string s).map text)
  | code s =>
      exact Adjacent.reads_content distinct (.tail _ (.head _)) (by decide)
        ((reads_string s).map code)
  | bare => exact Adjacent.reads_bare distinct (.tail _ (.tail _ (.head _))) rfl

theorem Attr.reads (a : Attr) : Reads decode a.toJson a := by
  apply Shape.reads (by decide)
  apply Stores.required (reads_string a.name)
  apply Stores.defaulted a.value.reads
  exact .nil a

namespace Template

theorem allToJson_eq_map (ts : List Template) : allToJson ts = ts.map toJson := by
  induction ts with
  | nil => rfl
  | cons t ts ih => rw [allToJson, ih, List.map_cons]

theorem reads_variant {name title : String} {fields : List (Slot Parts)} {make : Parts → Template}
    {ms : List (String × Json)} {p : Parts} (distinct : (fields.map (·.name)).Nodup)
    (stores : Stores fields ms {} p) :
    Reads (variant name title fields make).decode (.obj ms) (make p) :=
  (@Shape.reads _ ⟨title, ({} : Parts), fields⟩ ms p distinct stores).map make

theorem reads_element {child : Decoder Template} {kind : ElementKind} {name : String}
    {tag : String} {attrs : List Attr} {children : Json} {cs : List Template} {pos : UInt32}
    {body : Option String} (listed : Reads (Decoder.list child) children cs) :
    Reads (variant name "struct ElementNode" (elementFields child) (makeElement kind)).decode
      (.obj [("tagName", .str tag), ("attributes", .arr (attrs.map Attr.toJson)),
        ("children", children), ("pos", .int pos.toNat), ("bodyText", optionalText body)])
      (.element kind tag attrs cs pos body) := by
  have distinct : ((elementFields child).map (·.name)).Nodup := by
    change ["tagName", "attributes", "children", "pos", "bodyText"].Nodup
    decide
  have attributes : Reads (Decoder.list Attr.decode) (.arr (attrs.map Attr.toJson)) attrs :=
    reads_list fun a _ => a.reads
  have stores : Stores (elementFields child)
      [("tagName", .str tag), ("attributes", .arr (attrs.map Attr.toJson)), ("children", children),
        ("pos", .int pos.toNat), ("bodyText", optionalText body)] {}
      ⟨tag, none, none, attrs, cs, pos, body⟩ := by
    apply Stores.required (reads_string tag)
    apply Stores.defaulted attributes
    apply Stores.defaulted listed
    apply Stores.defaulted (reads_word32 pos)
    apply Stores.defaulted (reads_optionalText body)
    exact .nil _
  exact reads_variant distinct stores

theorem reads_tagged {child : Decoder Template} (t : Template)
    (children : ∀ c ∈ t.children, Reads child c.toJson c) :
    Reads (tagged child).decode t.toJson t := by
  have distinct : (Variant.names (tagged child).variants).Nodup := by
    change ["TemplateRoot", "Container", "HtmlElement", "CustomTag", "Other"].Nodup
    decide
  have listed : Reads (Decoder.list child) (.arr (allToJson t.children)) t.children := by
    rw [allToJson_eq_map]
    exact reads_list children
  cases t with
  | root cs =>
      have names : ([Parts.childrenField child].map (·.name)).Nodup := List.nodup_singleton _
      exact Tagged.reads distinct (.head _) (by simp [tagged])
        (reads_variant names (.defaulted listed (.nil _)))
  | container cs pos =>
      have names : ([Parts.childrenField child, Parts.posField].map (·.name)).Nodup := by
        change ["children", "pos"].Nodup
        decide
      exact Tagged.reads distinct (.tail _ (.head _)) (by simp [tagged])
        (reads_variant names
          (.defaulted listed (.defaulted (reads_word32 pos) (.nil _))))
  | element kind tag attrs cs pos body =>
      cases kind with
      | html =>
          exact Tagged.reads distinct (.tail _ (.tail _ (.head _))) (by simp [tagged])
            (reads_element listed)
      | custom =>
          exact Tagged.reads distinct (.tail _ (.tail _ (.tail _ (.head _)))) (by simp [tagged])
            (reads_element listed)
  | other tag opening cs pos =>
      have names : ([Parts.optionalTagField, Parts.openingField, Parts.childrenField child,
          Parts.posField].map (·.name)).Nodup := by
        change ["tagName", "tagString", "children", "pos"].Nodup
        decide
      exact Tagged.reads distinct (.tail _ (.tail _ (.tail _ (.tail _ (.head _)))))
        (by simp [tagged])
        (reads_variant names
          (.defaulted (reads_optionalText tag) (.defaulted (reads_optionalText opening)
            (.defaulted listed (.defaulted (reads_word32 pos) (.nil _))))))

/-- A child is two collections deeper than the node that holds it. -/
theorem depth_child {t c : Template} (member : c ∈ t.children) :
    c.toJson.depth + 2 ≤ t.toJson.depth := by
  have listed : c.toJson.depth < (Json.arr (allToJson t.children)).depth := by
    apply Json.depth_lt_arr
    rw [allToJson_eq_map]
    exact List.mem_map_of_mem member
  have held : (Json.arr (allToJson t.children)).depth < t.toJson.depth := by
    cases t <;>
      exact Json.depth_lt_obj (m := ("children", .arr (allToJson _))) (by simp [children])
  omega

theorem reads_decodeTo (t : Template) (n : Nat) (deep : t.toJson.depth ≤ n + 1) :
    Reads (decodeTo n) t.toJson t := by
  induction t using Template.induction generalizing n with
  | step t ih =>
      cases n with
      | zero =>
          refine reads_tagged t fun c member => ?_
          have below := depth_child member
          omega
      | succ n =>
          refine reads_tagged t fun c member => ih c member n ?_
          have below := depth_child member
          omega

theorem reads (t : Template) : Reads decode t.toJson t := by
  have down := reads_decodeTo t t.toJson.depth (Nat.le_succ _)
  exact ⟨down.range, down.read⟩

end Template

theorem Options.reads (o : Options) : Reads decode o.toJson o := by
  apply Shape.reads (by decide)
  apply Stores.defaulted (reads_string o.templateExtension)
  apply Stores.defaulted (reads_string o.legacyBindAttribute)
  apply Stores.defaulted (reads_string o.boundRootAttribute)
  apply Stores.defaulted (reads_string o.keyPrefix)
  apply Stores.defaulted (reads_string o.componentConstantName)
  apply Stores.defaulted (reads_string o.createHookName)
  exact .nil o

theorem Module.reads (m : Module) : Reads decode m.toJson m := by
  have distinct : (Variant.names tagged.variants).Nodup := by decide
  cases m with
  | file filename requirePath =>
      have parts : Reads fileShape.decode
          (.obj [("filename", .str filename), ("requirePath", .str requirePath)])
          ⟨"", filename, requirePath⟩ := by
        apply Shape.reads (by decide)
        apply Stores.required (reads_string filename)
        apply Stores.required (reads_string requirePath)
        exact .nil _
      exact Tagged.reads distinct (.head _) (by simp [tagged])
        (parts.map fun p => file p.filename p.requirePath)
  | inline constant filename requirePath =>
      have parts : Reads inlineShape.decode
          (.obj [("inlineId", .str constant), ("filename", .str filename),
            ("requirePath", .str requirePath)]) ⟨constant, filename, requirePath⟩ := by
        apply Shape.reads (by decide)
        apply Stores.required (reads_string constant)
        apply Stores.required (reads_string filename)
        apply Stores.required (reads_string requirePath)
        exact .nil _
      exact Tagged.reads distinct (.tail _ (.head _)) (by simp [tagged])
        (parts.map fun p => inline p.constant p.filename p.requirePath)

theorem StyleBlock.reads (b : StyleBlock) : Reads shape.decode b.toJson b := by
  apply Shape.reads (by decide)
  apply Stores.required (reads_string b.language)
  apply Stores.required (reads_string b.code)
  apply Stores.required (reads_string b.virtualPath)
  apply Stores.required (reads_string b.path)
  exact .nil b

namespace Dependency

theorem decode_style {source : Json.Source} {r : Json.Reading} {b : StyleBlock}
    (whole : source.readWhole r = .ok ()) (block : StyleBlock.shape.decode .held r = .ok b) :
    decode source r = .ok (style b) := by
  have collection := Shape.depth_of_decode block
  cases r with
  | object | list =>
      simp only [decode, whole, block, bind, Except.bind]
      rfl
  | _ => cases collection

theorem reads (d : Dependency) : Reads decode d.toJson d := by
  cases d with
  | path s => exact ⟨.str s, fun source admits => by cases source <;> rfl⟩
  | style b =>
      exact ⟨b.reads.range, fun source admits => decode_style
        (Json.Source.readWhole_ofJson b.toJson admits) (b.reads.read .held trivial)⟩

end Dependency

theorem Constant.reads (c : Constant) : Reads decode c.toJson c := by
  apply Shape.reads (by decide)
  apply Stores.required (reads_string c.name)
  apply Stores.required (reads_string c.source)
  exact .nil c

def Diagnostic.IsSized (d : Diagnostic) : Prop := ∀ id ∈ d.node, id < Json.Numeral.limit

instance (d : Diagnostic) : Decidable d.IsSized :=
  inferInstanceAs (Decidable (∀ id ∈ d.node, id < Json.Numeral.limit))

theorem Diagnostic.reads (d : Diagnostic) (sized : d.IsSized) : Reads decode d.toJson d := by
  obtain ⟨code, message, rule, file, pos, node⟩ := d
  have fields {number : Json} (read : Reads (Decoder.nullable Decoder.size) number node) :
      Reads decode (.obj [("code", .str code), ("message", .str message), ("rule", .str rule),
        ("file", .str file), ("pos", .int pos.toNat), ("node", number)])
        ⟨code, message, rule, file, pos, node⟩ := by
    apply Shape.reads (by decide)
    apply Stores.required (reads_string code)
    apply Stores.required (reads_string message)
    apply Stores.required (reads_string rule)
    apply Stores.required (reads_string file)
    apply Stores.required (reads_word32 pos)
    apply Stores.nullable read
    exact .nil _
  cases node with
  | none => exact fields reads_none
  | some id => exact fields (reads_some (reads_size (sized id rfl)) nofun)

def Decision.IsSized : Decision → Prop
  | bound rootCount _ => rootCount < Json.Numeral.limit
  | _ => True

instance : ∀ d : Decision, Decidable d.IsSized
  | .bound rootCount _ => inferInstanceAs (Decidable (rootCount < Json.Numeral.limit))
  | .legacyExplicitBind | .noBoundComponent | .noRootNodes | .ambiguousIds =>
    inferInstanceAs (Decidable True)

theorem Decision.reads_constant {name : String} {value : Decision}
    (member : Variant.constant name value ∈ tagged.variants) :
    Reads decode (.obj [("decision", .str name)]) value :=
  Tagged.reads (by decide) member (by simp) (Variant.reads_constant (by simp) name value)

theorem Decision.reads (d : Decision) (sized : d.IsSized) : Reads decode d.toJson d := by
  cases d with
  | legacyExplicitBind => exact reads_constant (.head _)
  | noBoundComponent => exact reads_constant (.tail _ (.head _))
  | noRootNodes => exact reads_constant (.tail _ (.tail _ (.head _)))
  | ambiguousIds => exact reads_constant (.tail _ (.tail _ (.tail _ (.head _))))
  | bound rootCount keys =>
      have parts : Reads boundShape.decode
          (.obj [("rootCount", .int rootCount), ("keys", .arr (keys.map .str))])
          (rootCount, keys) := by
        apply Shape.reads (by decide)
        apply Stores.required (reads_size sized)
        apply Stores.required (reads_list fun key _ => reads_string key)
        exact .nil _
      have distinct : (Variant.names tagged.variants).Nodup := by decide
      exact Tagged.reads distinct (.tail _ (.tail _ (.tail _ (.tail _ (.head _)))))
        (by simp [tagged]) (parts.map fun p => bound p.1 p.2)

theorem Request.reads (r : Request) : Reads decode r.toJson r := by
  apply Shape.reads (by decide)
  apply Stores.required (reads_string r.filename)
  apply Stores.required r.tree.reads
  apply Stores.defaulted r.options.reads
  exact .nil r

def Answer.IsSized (a : Answer) : Prop :=
  (∀ d ∈ a.binding, d.IsSized) ∧ ∀ d ∈ a.diagnostics, d.IsSized

instance (a : Answer) : Decidable a.IsSized :=
  inferInstanceAs (Decidable ((∀ d ∈ a.binding, d.IsSized) ∧ ∀ d ∈ a.diagnostics, d.IsSized))

theorem reads_optionalValue {α : Type} {toJson : α → Json} {d : Decoder α} (a : Option α)
    (present : ∀ a, toJson a ≠ .null) (reads : ∀ v ∈ a, Reads d (toJson v) v) :
    Reads (Decoder.nullable d) (optionalValue toJson a) a := by
  cases a with
  | none => exact reads_none
  | some v => exact reads_some (reads v rfl) (present v)

theorem Decision.toJson_ne_null (d : Decision) : d.toJson ≠ .null := by
  cases d <;> exact nofun

theorem Module.toJson_ne_null (m : Module) : m.toJson ≠ .null := by
  cases m <;> exact nofun

theorem Answer.reads (a : Answer) (sized : a.IsSized) : Reads decode a.toJson a := by
  obtain ⟨small, small_each⟩ := sized
  have module (m : Option Module) :
      Reads (Decoder.nullable Module.decode) (optionalValue Module.toJson m) m :=
    reads_optionalValue m Module.toJson_ne_null fun m _ => m.reads
  apply Shape.reads (by decide)
  apply Stores.required a.tree.reads
  apply Stores.required (reads_boolean a.skipped)
  apply Stores.nullable
    (reads_optionalValue a.binding Decision.toJson_ne_null fun d held => d.reads (small d held))
  apply Stores.nullable (module a.component)
  apply Stores.nullable (module a.renderer)
  apply Stores.required (reads_list fun d _ => d.reads)
  apply Stores.required (reads_list fun c _ => c.reads)
  apply Stores.required (reads_list fun d listed => d.reads (small_each d listed))
  exact .nil a

/-- A value of the type comes back when its text is decoded, unless more collections are within each
other than a text may have. -/
def RoundTrips {α : Type} (toJson : α → Json) (decode : Decoder α)
    (sized : α → Prop := fun _ => True) : Prop :=
  ∀ a, sized a → (toJson a).depth ≤ Json.maxDepth →
    Json.decodeText decode (toJson a).render = .ok a

theorem roundTrips_of_reads {α : Type} {toJson : α → Json} {decode : Decoder α}
    {sized : α → Prop} (reads : ∀ a, sized a → Reads decode (toJson a) a) :
    RoundTrips toJson decode sized :=
  fun a fits shallow => (reads a fits).decodeText shallow

/-- Every value that is exchanged comes back when its text is decoded. -/
theorem exchanged_values_round_trip :
    RoundTrips AttrValue.toJson AttrValue.decode ∧
      RoundTrips Attr.toJson Attr.decode ∧
      RoundTrips Template.toJson Template.decode ∧
      RoundTrips Module.toJson Module.decode ∧
      RoundTrips Dependency.toJson Dependency.decode ∧
      RoundTrips Constant.toJson Constant.decode ∧
      RoundTrips Diagnostic.toJson Diagnostic.decode Diagnostic.IsSized ∧
      RoundTrips Decision.toJson Decision.decode Decision.IsSized ∧
      RoundTrips Options.toJson Options.decode ∧
      RoundTrips Request.toJson Request.decode ∧
      RoundTrips Answer.toJson Answer.decode Answer.IsSized :=
  ⟨roundTrips_of_reads fun v _ => v.reads, roundTrips_of_reads fun a _ => a.reads,
    roundTrips_of_reads fun t _ => t.reads, roundTrips_of_reads fun m _ => m.reads,
    roundTrips_of_reads fun d _ => d.reads, roundTrips_of_reads fun c _ => c.reads,
    roundTrips_of_reads Diagnostic.reads, roundTrips_of_reads Decision.reads,
    roundTrips_of_reads fun o _ => o.reads, roundTrips_of_reads fun r _ => r.reads,
    roundTrips_of_reads Answer.reads⟩

def wrapped : Nat → Template
  | 0 => .element .html "p" [⟨"title", .text "a \"b\"\n\x01"⟩, ⟨"w-bind", .bare⟩] [] 7 (some "")
  | n + 1 => .container [wrapped n] 3

def deepAnswer : Answer where
  tree := .root [wrapped 60, .other none (some "<!-- -->") [] 9]
  skipped := false
  binding := some (.bound 1 ["_r0"])
  component := some (.inline "marko_component" "./index.marko" "./index.marko")
  renderer := some (.file "./renderer.js" "./renderer")
  dependencies := [.path "./style.css", .style ⟨"css", ".a {}", "./index.css", "./index.marko"⟩]
  constants := [⟨"marko_component", "{}"⟩]
  diagnostics := [⟨"SFC-ERR-CLASS-SYNTAX", "", "", "./index.marko", 12, some 2⟩,
    ⟨"SFC-ERR-STYLE-ATTRIBUTE", "", "", "./index.marko", 40, none⟩]

theorem deepAnswer_round_trips :
    deepAnswer.IsSized ∧ deepAnswer.toJson.depth = Json.maxDepth ∧
      Json.decodeText Answer.decode deepAnswer.toJson.render = .ok deepAnswer := by
  obtain ⟨-, -, -, -, -, -, -, -, -, -, answers⟩ := exchanged_values_round_trip
  have sized : deepAnswer.IsSized := by decide
  have deepest : deepAnswer.toJson.depth = Json.maxDepth := by decide +kernel
  exact ⟨sized, deepest, answers deepAnswer sized (Nat.le_of_eq deepest)⟩

end TemplateWiring
