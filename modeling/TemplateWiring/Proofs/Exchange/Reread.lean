import TemplateWiring.Proofs.Exchange.Answer
import TemplateWiring.Proofs.Exchange.Nesting
import TemplateWiring.Proofs.Wiring.Growth

/-! Whether an answer can be read back, and its template asked about again: so long as its text has
no more collections within each other than a text may have. Those that a run adds to the ones of
the request are a root above a template without one, and the attributes of a root that had none. -/

namespace TemplateWiring

open Json (Shape Reading)

theorem depth_optionalValue {α : Type} {toJson : α → Json} {n : Nat}
    (each : ∀ a, (toJson a).depth ≤ n) (a : Option α) : (optionalValue toJson a).depth ≤ n := by
  cases a with
  | none => exact Nat.zero_le _
  | some a => exact each a

theorem Module.depth_toJson (m : Module) : m.toJson.depth ≤ 1 := by
  cases m <;> exact Nat.le_refl _

theorem Dependency.depth_toJson (d : Dependency) : d.toJson.depth ≤ 1 := by
  cases d with
  | path => exact Nat.zero_le _
  | style => exact Nat.le_refl _

theorem Diagnostic.depth_toJson (d : Diagnostic) : d.toJson.depth ≤ 1 := by
  obtain ⟨code, message, rule, file, pos, node⟩ := d
  cases node <;> exact Nat.le_refl _

theorem Decision.depth_toJson (d : Decision) : d.toJson.depth ≤ 2 := by
  cases d with
  | bound rootCount keys =>
      have texts := Json.depthOfItems_map Json.str keys (n := 0)
        fun _ _ => Nat.le_refl _
      change max 0 (max 0 (max (Reading.depthOfItems (Reading.ofItems (keys.map .str)) + 1) 0)) + 1
        ≤ 2
      omega
  | _ => exact Nat.le_succ _

theorem Answer.depth_toJson (a : Answer) : a.toJson.depth = 2 * a.tree.height + 1 := by
  have tall := a.tree.height_pos
  have tree := a.tree.depth_toJson
  have decision := depth_optionalValue Decision.depth_toJson a.binding
  have component := depth_optionalValue Module.depth_toJson a.component
  have renderer := depth_optionalValue Module.depth_toJson a.renderer
  have dependencies := Json.depthOfItems_map _ a.dependencies fun d _ => d.depth_toJson
  have constants := Json.depthOfItems_map Constant.toJson a.constants (n := 1)
    fun _ _ => Nat.le_refl _
  have diagnostics := Json.depthOfItems_map _ a.diagnostics fun d _ => d.depth_toJson
  change max a.tree.toJson.depth (max 0 (max (optionalValue Decision.toJson a.binding).depth
    (max (optionalValue Module.toJson a.component).depth
      (max (optionalValue Module.toJson a.renderer).depth
        (max (Reading.depthOfItems (Reading.ofItems (a.dependencies.map Dependency.toJson)) + 1)
          (max (Reading.depthOfItems (Reading.ofItems (a.constants.map Constant.toJson)) + 1)
            (max (Reading.depthOfItems
              (Reading.ofItems (a.diagnostics.map Diagnostic.toJson)) + 1) 0))))))) + 1 = _
  omega

theorem Request.depth_toJson (r : Request) : r.toJson.depth = 2 * r.tree.height + 1 := by
  have tall := r.tree.height_pos
  have tree := r.tree.depth_toJson
  change max 0 (max r.tree.toJson.depth (max 1 0)) + 1 = _
  omega

/-- What was written for a value is decoded as the value, or is too deep to be decoded at all. -/
structure Rereads {α : Type} (d : Json.Decoder α) (j : Json) (a : α) : Prop where
  accepted : j.depth ≤ Json.maxDepth → Json.decodeText d j.render = .ok a
  rejected : Json.maxDepth < j.depth → ∀ b, Json.decodeText d j.render ≠ .ok b

section reread

variable {σ : Type} (sh : Shape σ) {ms : List (String × Json)} {τ : Template}

theorem depth_of_reread {store : Template → σ → σ}
    (found : sh.fields.find? (·.name == "tree") = some (.required "tree" Template.decode store))
    (member : (.name "tree", Reading.ofJson τ.toJson) ∈ Reading.ofMembers ms)
    (range : Json.InRange (.obj ms)) {s : σ}
    (read : Json.decodeText sh.decode (Json.obj ms).render = .ok s) :
    τ.toJson.depth < Json.maxDepth := by
  have decoded := Json.decodeText_ok read
  rw [Reading.ofText_render range, Reading.ofJson] at decoded
  obtain ⟨inner, stored, enter, decoded⟩ := Shape.decode_member decoded member found
  obtain ⟨room, rooms, rfl⟩ := Json.Source.room_of_enter enter
  obtain ⟨again, decoded, -⟩ := Json.ok_of_map decoded
  rw [rooms]
  exact Nat.lt_succ_of_le (Template.depth_of_decode decoded)

end reread

theorem Answer.rereads (a : Answer) (sized : a.IsSized) : Rereads decode a.toJson a := by
  have reads := Answer.reads a sized
  refine ⟨reads.decodeText, fun deep b read => ?_⟩
  have shallow : a.tree.toJson.depth < Json.maxDepth :=
    depth_of_reread shape rfl List.mem_cons_self reads.range read
  rw [Template.depth_toJson] at shallow
  rw [Answer.depth_toJson] at deep
  omega

theorem Request.rereads (r : Request) : Rereads decode r.toJson r := by
  refine ⟨r.reads.decodeText, fun deep b read => ?_⟩
  have shallow : r.tree.toJson.depth < Json.maxDepth :=
    depth_of_reread shape rfl (List.mem_cons_of_mem _ List.mem_cons_self)
      r.reads.range read
  rw [Template.depth_toJson] at shallow
  rw [Request.depth_toJson] at deep
  omega

namespace Request

structure Within (text : String) (r : Request) : Prop where
  height : 2 * r.tree.height ≤ max 2 (min (Reading.ofText text).1.depth Json.maxDepth)
  size : r.tree.size < max 2 text.length

theorem within_decodeText {text : String} {r : Request}
    (read : Json.decodeText decode text = .ok r) : r.Within text := by
  have decoded := Json.decodeText_ok read
  have fewer := Reading.collections_ofText text
  have blank : shape.blank.Within text :=
    ⟨Nat.le_max_left _ _, Nat.lt_of_lt_of_le (Nat.lt_succ_self 1) (Nat.le_max_left _ _)⟩
  refine Shape.decode_induct blank ?_ decoded
  intro inner enter f known x member store read r within
  obtain ⟨room, rooms, rfl⟩ := Json.Source.room_of_enter enter
  simp only [shape, List.mem_cons, List.not_mem_nil, or_false] at known
  rcases known with rfl | rfl | rfl
  case inr.inl =>
    obtain ⟨τ, decoded, rfl⟩ := Json.ok_of_map read
    have own := Template.within_decode decoded
    constructor
    · have shallow := Template.depth_of_decode decoded
      have deeper := Reading.depth_part member
      have height := own.height
      change 2 * τ.height ≤ _
      omega
    · have larger := Reading.collections_part member
      have size := own.size
      change τ.size < _
      omega
  all_goals
    obtain ⟨value, -, rfl⟩ := Json.ok_of_map read
    exact ⟨within.height, within.size⟩

/-- How many collections a run may put around those of the request, or within them. -/
def surplus (r : Request) (decision : Option Decision) : Nat :=
  2 * ((if r.tree.isRoot then 0 else 1) + if decision.any Decision.isBound then 1 else 0)

theorem surplus_le (r : Request) (decision : Option Decision) : r.surplus decision ≤ 4 := by
  rw [surplus]
  split <;> split <;> decide

variable {folder : Folder} {r : Request} {a : Answer}

theorem run_outcome (ran : r.run folder = .ok a) :
    let w := Wiring.run folder (Tree.ofTemplate r.tree)
      { filename := r.filename, options := r.options }
    a = { tree := (Tree.ofTemplate r.tree).toTemplate, skipped := true } ∨
      ∃ roots decision, w.report = .ok (.completed roots decision) ∧
        a = Answer.ofWiring w.tree w.document (.completed roots decision) := by
  obtain ⟨report, ended, answer⟩ := run_answer ran
  cases report with
  | skipped =>
      have nameless := Wiring.nameless_of_skipped ended
      rw [run_nameless folder nameless] at ran
      exact .inl (Except.ok.inj ran).symm
  | completed roots decision => exact .inr ⟨roots, decision, ended, answer⟩

theorem height_answer (ran : r.run folder = .ok a) :
    2 * a.tree.height ≤ 2 * r.tree.height + r.surplus a.binding := by
  have built := Tree.height_ofTemplate r.tree
  rw [surplus]
  rcases run_outcome ran with rfl | ⟨roots, decision, ended, rfl⟩
  · dsimp only
    omega
  · have wf := Tree.wellFormed_of_reachable (Tree.reachable_ofTemplate r.tree)
    obtain ⟨base, scanned, swept, completed⟩ := Wiring.run_completed wf ended
    have grown := completed.height_run wf
    rw [built] at grown
    change 2 * (Wiring.run folder (Tree.ofTemplate r.tree)
      { filename := r.filename, options := r.options }).tree.toTemplate.height ≤
        2 * r.tree.height +
          2 * ((if r.tree.isRoot then 0 else 1) + if decision.isBound then 1 else 0)
    omega

theorem sized_answer (ran : r.run folder = .ok a) (small : r.tree.size < Json.Numeral.limit) :
    a.IsSized := by
  rcases run_outcome ran with rfl | ⟨roots, decision, ended, rfl⟩
  · exact ⟨(fun _ held => nomatch held), fun _ listed => nomatch listed⟩
  · have wf := Tree.wellFormed_of_reachable (Tree.reachable_ofTemplate r.tree)
    have size : (Tree.ofTemplate r.tree).size ≤ r.tree.size + 1 := by
      rw [Tree.size_ofTemplate]
      exact Nat.succ_le_succ r.tree.sizeAll_tops
    constructor
    · intro held same
      cases same
      obtain ⟨base, scanned, swept, completed⟩ := Wiring.run_completed wf ended
      have fewer := completed.length_roots wf
      cases decision with
      | bound rootCount keys =>
          change rootCount < _
          rw [Binding.rootCount_ruling completed.ruling]
          omega
      | _ => trivial
    · intro found listed id named
      have inside := Wiring.reported_inside wf ended found listed id named
      omega

/-- An answer, and a request with its template, are decoded so long as they are not too deep; and
they are not, where the request leaves room for what the run may put around it or into it. -/
theorem answer_rereads (folder : Folder) {text : String} (fits : text.length < Json.Numeral.limit)
    {a : Answer} (ran : runText folder text = .ok a) :
    ∃ r, Json.decodeText decode text = .ok r ∧
      Rereads Answer.decode a.toJson a ∧
      (∀ filename options, let again : Request := ⟨filename, a.tree, options⟩
        again.toJson.depth = a.toJson.depth ∧ Rereads decode again.toJson again) ∧
      a.toJson.depth ≤ Json.maxDepth + r.surplus a.binding ∧
      (min (Reading.ofText text).1.depth Json.maxDepth + r.surplus a.binding ≤ Json.maxDepth →
        a.toJson.depth ≤ Json.maxDepth) := by
  cases decoded : Json.decodeText decode text with
  | error p =>
      rw [runText, decoded] at ran
      cases ran
  | ok r =>
      rw [runText, decoded] at ran
      have within := within_decodeText decoded
      have tall := within.height
      have small := within.size
      have grown := height_answer ran
      have added := r.surplus_le a.binding
      have fits : r.tree.size < Json.Numeral.limit := by
        rw [Json.Numeral.limit] at fits ⊢
        omega
      have sized := sized_answer ran fits
      have deep := a.depth_toJson
      rw [Json.maxDepth] at tall ⊢
      refine ⟨r, rfl, a.rereads sized, fun filename options => ⟨?_, rereads _⟩, ?_, ?_⟩
      · rw [depth_toJson, deep]
      · omega
      · rw [surplus] at grown added ⊢
        omega

def fragmentText : String :=
  "\x7b\"filename\": \"index.marko\", \"tree\": " ++
    "\x7b\"children\": [\x7b\"type\": \"Other\"\x7d], \"type\": \"Container\"\x7d\x7d"

def fragmentRequest : Request where
  filename := "index.marko"
  tree := .container [.other none none [] 0] 0

theorem fragmentText_answer_rereads :
    fragmentText.length < Json.Numeral.limit ∧
      ∃ a, runText Folder.empty fragmentText = .ok a ∧
        Json.decodeText Answer.decode a.toJson.render = .ok a := by
  have fits : fragmentText.length < Json.Numeral.limit := by decide +kernel
  have decoded : Json.decodeText decode fragmentText = .ok fragmentRequest := by cbv
  have scan : Sibling.scan Folder.empty "index" { filename := "index.marko" } =
      .ok { filename := "index.marko" } := by decide +kernel
  have ran := run_of_sweep (r := fragmentRequest) (by decide +kernel) scan
    (Tree.frontier_ofTemplate fragmentRequest.tree) (by decide +kernel)
  have answered : runText Folder.empty fragmentText = fragmentRequest.run Folder.empty := by
    rw [runText, decoded]
  obtain ⟨r, same, rereads, -, -, room⟩ :=
    answer_rereads Folder.empty fits (answered.trans ran)
  cases decoded.symm.trans same
  refine ⟨fits, _, answered.trans ran, rereads.accepted (room ?_)⟩
  have shallow : (Reading.ofText fragmentText).1.depth = 4 := by cbv
  rw [shallow]
  decide +kernel

/-- Neither the text of the answer is decoded, nor that of a request with its template. -/
def Unread (a : Answer) : Prop :=
  (∀ b, Json.decodeText Answer.decode a.toJson.render ≠ .ok b) ∧
    ∀ filename options b,
      Json.decodeText decode (Request.mk filename a.tree options).toJson.render ≠ .ok b

theorem unread_of_height {a : Answer} (sized : a.IsSized) (tall : 63 < a.tree.height) :
    Unread a := by
  constructor
  · apply (a.rereads sized).rejected
    rw [Answer.depth_toJson, Json.maxDepth]
    omega
  · intro filename options
    apply (rereads _).rejected
    rw [depth_toJson, Json.maxDepth]
    dsimp only
    omega

def contained : Nat → Template → Template
  | 0, τ => τ
  | n + 1, τ => .container [contained n τ] 0

/-- As deep as a request may be, without a root. -/
def deepFragment : Request where
  filename := "index.marko"
  tree := contained 62 (.other none (some "<!-- -->") [] 9)

def deepElement : Request where
  filename := "index.marko"
  tree := .root [contained 61 (.element .html "div" [] [] 0 none)]

theorem unread_of_path {r : Request} {base : String} {scanned : Document} {n : Nat}
    (shallow : r.toJson.depth ≤ Json.maxDepth) (small : r.tree.size < Json.Numeral.limit)
    (named : Sibling.baseName? r.filename r.options.templateExtension = some base)
    (scan : Sibling.scan folder base { filename := r.filename, options := r.options } =
      .ok scanned) :
    let t := Tree.ofTemplate r.tree
    let ids := 0 :: (Template.frontierAll 1 r.tree.tops).map (·.1)
    let swept := Walk.sweep Roots.visit t { document := scanned } [] ids
    let bound := Binding.bind (t.detachAll swept.gone) swept.state.document swept.state.roots
    swept.error = none ∧ (∀ step < n, step + 1 ∈ bound.1.children step) ∧
      63 ≤ n + (bound.1.node n).fringe →
        ∃ a, runText folder r.toJson.render = .ok a ∧ Unread a := by
  intro t ids swept bound ⟨ok, linked, tall⟩
  have wf := Tree.wellFormed_of_reachable (Tree.reachable_ofTemplate r.tree)
  have ran := run_of_sweep named scan (Tree.frontier_ofTemplate r.tree) ok
  refine ⟨_, ?_, unread_of_height (sized_answer ran small) ?_⟩
  · rw [runText, r.reads.decodeText shallow]
    exact ran
  · have wf' : bound.1.WellFormed :=
      Wiring.wellFormed_ruling (Tree.wellFormed_detachAll wf _) (Binding.bind_ruling _ _ _)
    change 63 < bound.1.toTemplate.height
    rw [Tree.toTemplate_eq wf']
    have path := Tree.height_path wf' n 0 (by simpa using linked)
    rw [Nat.zero_add] at path
    omega

/-- A request may be as deep as any, and its answer deeper: with the root that is put above it, or
with the attributes that are written. -/
theorem deep_requests_unread :
    (∃ a, runText Folder.empty deepFragment.toJson.render = .ok a ∧ Unread a) ∧
      ∃ a, runText (Folder.ofPaths ["component.js"]) deepElement.toJson.render = .ok a ∧
        Unread a := by
  constructor
  · have scan : Sibling.scan Folder.empty "index" { filename := "index.marko" } =
        .ok { filename := "index.marko" } := by decide +kernel
    exact unread_of_path (n := 63) (by decide +kernel) (by decide +kernel) (by decide +kernel) scan
      (by decide +kernel)
  · have scan : Sibling.scan (Folder.ofPaths ["component.js"]) "index"
        { filename := "index.marko" } = .ok Wiring.besideComponent := by decide +kernel
    exact unread_of_path (n := 62) (by decide +kernel) (by decide +kernel) (by decide +kernel) scan
      (by decide +kernel)

end Request

end TemplateWiring
