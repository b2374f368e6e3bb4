import TemplateWiring.Proofs.Exchange.RoundTrip
import TemplateWiring.Proofs.Json.Extent
import TemplateWiring.Proofs.Template.Height

namespace TemplateWiring

open Json (Decoder Shape Slot Tagged Variant Reading)

namespace Json

theorem depthOfItems_map {α : Type} (toJson : α → Json) (as : List α) {n : Nat}
    (each : ∀ a ∈ as, (toJson a).depth ≤ n) :
    Reading.depthOfItems (Reading.ofItems (as.map toJson)) ≤ n := by
  induction as with
  | nil => exact Nat.zero_le _
  | cons a as ih =>
      obtain ⟨first, rest⟩ := List.forall_mem_cons.mp each
      exact Nat.max_le.mpr ⟨first, ih rest⟩

end Json

theorem Attr.depth_toJson (a : Attr) : a.toJson.depth = 2 := by
  obtain ⟨name, value⟩ := a
  cases value <;> rfl

theorem depth_optionalText (text : Option String) : (optionalText text).depth = 0 := by
  cases text <;> rfl

namespace Template

open Json.Reading (depthOfItems ofItems)

theorem depthOfItems_attrs (attrs : List Attr) :
    depthOfItems (ofItems (attrs.map Attr.toJson)) = 2 * if attrs.isEmpty then 0 else 1 := by
  cases attrs with
  | nil => rfl
  | cons a attrs =>
      have first := a.depth_toJson
      have rest := Json.depthOfItems_map Attr.toJson attrs fun b _ => Nat.le_of_eq b.depth_toJson
      exact Nat.le_antisymm (Nat.max_le.mpr ⟨Nat.le_of_eq first, rest⟩)
        (Nat.le_trans (Nat.le_of_eq first.symm) (Nat.le_max_left _ _))

theorem depthOfItems_children {cs : List Template}
    (each : ∀ c ∈ cs, c.toJson.depth = 2 * c.height) :
    depthOfItems (ofItems (allToJson cs)) = 2 * heightAll cs := by
  induction cs with
  | nil => rfl
  | cons c cs ih =>
      obtain ⟨first, rest⟩ := List.forall_mem_cons.mp each
      change max c.toJson.depth (depthOfItems (ofItems (allToJson cs))) = _
      rw [first, ih rest, heightAll]
      omega

theorem depth_toJson (τ : Template) : τ.toJson.depth = 2 * τ.height := by
  induction τ using Template.induction with
  | step τ ih =>
      have below := depthOfItems_children ih
      cases τ with
      | root cs =>
          change max (0 : Nat) (max (depthOfItems (ofItems (allToJson cs)) + 1) 0) + 1 = _
          dsimp only [children] at below
          rw [height, below]
          omega
      | container cs pos =>
          change max (0 : Nat) (max (depthOfItems (ofItems (allToJson cs)) + 1) (max 0 0)) + 1 = _
          dsimp only [children] at below
          rw [height, below]
          omega
      | element kind tag attrs cs pos body =>
          change max (0 : Nat) (max 0 (max (depthOfItems (ofItems (attrs.map Attr.toJson)) + 1)
            (max (depthOfItems (ofItems (allToJson cs)) + 1)
              (max 0 (max (optionalText body).depth 0))))) + 1 = _
          dsimp only [children] at below
          rw [height, below, depthOfItems_attrs, depth_optionalText]
          omega
      | other tag opening cs pos =>
          change max (0 : Nat) (max (optionalText tag).depth (max (optionalText opening).depth
            (max (depthOfItems (ofItems (allToJson cs)) + 1) (max 0 0)))) + 1 = _
          dsimp only [children] at below
          rw [height, below, depth_optionalText, depth_optionalText]
          omega

/-- A template that a value was decoded as reaches no further than the value. -/
structure Within (r : Reading) (τ : Template) : Prop where
  height : 2 * τ.height ≤ r.depth + 1
  size : τ.size ≤ r.collections

structure Parts.Within (r : Reading) (p : Parts) : Prop where
  height : 2 * heightAll p.children + 1 ≤ r.depth
  fringe : p.attrs ≠ [] → 3 ≤ r.depth
  size : sizeAll p.children < r.collections

theorem heightAll_le_depth {items : List Reading} {cs : List Template}
    (each : List.Forall₂ Within items cs) :
    2 * heightAll cs ≤ Reading.depthOfItems items + 1 := by
  induction each with
  | nil => exact Nat.zero_le _
  | cons first _ ih =>
      have here := first.height
      rw [heightAll, Reading.depthOfItems]
      omega

theorem sizeAll_le_collections {items : List Reading} {cs : List Template}
    (each : List.Forall₂ Within items cs) : sizeAll cs ≤ Reading.collectionsOfItems items := by
  induction each with
  | nil => exact Nat.le_refl _
  | cons first _ ih => exact Nat.add_le_add first.size ih

def Parts.fields (child : Decoder Template) : List (Slot Parts) :=
  [tagField, optionalTagField, openingField, attrsField, childrenField child, posField, bodyField]

theorem Parts.within_field {child : Decoder Template}
    (inner : ∀ source x c, child source x = .ok c → Template.Within x c) {r : Reading}
    {source : Json.Source} {f : Slot Parts} (known : f ∈ Parts.fields child) {x : Reading}
    (member : x ∈ r.parts) {store : Parts → Parts} (read : f.decode source x = .ok store)
    {p : Parts} (within : p.Within r) : (store p).Within r := by
  obtain ⟨height, fringe, size⟩ := within
  have below := Reading.depth_part member
  simp only [fields, List.mem_cons, List.not_mem_nil, or_false] at known
  rcases known with rfl | rfl | rfl | rfl | rfl | rfl | rfl
  case inr.inr.inr.inl =>
    obtain ⟨attrs, listed, rfl⟩ := Json.ok_of_map read
    obtain ⟨inside, items, stop, -, rfl, each⟩ := Decoder.list_ok listed
    refine ⟨height, fun present => ?_, size⟩
    cases each with
    | nil => exact absurd rfl present
    | cons first _ =>
        have deep := Shape.depth_of_decode first
        rw [Reading.depth, Reading.depthOfItems] at below
        omega
  case inr.inr.inr.inr.inl =>
    obtain ⟨children, listed, rfl⟩ := Json.ok_of_map read
    obtain ⟨inside, items, stop, -, rfl, each⟩ := Decoder.list_ok listed
    have each' := each.imp fun x c => inner inside x c
    refine ⟨?_, fringe, ?_⟩
    · have all := heightAll_le_depth each'
      rw [Reading.depth] at below
      exact Nat.lt_of_le_of_lt all below
    · have all := sizeAll_le_collections each'
      have fewer := Reading.collections_part member
      exact Nat.lt_of_le_of_lt all (Nat.lt_trans (Nat.lt_succ_self _) fewer)
  all_goals
    obtain ⟨value, -, rfl⟩ := Json.ok_of_map read
    exact ⟨height, fringe, size⟩

theorem Parts.Within.within_template {r : Reading} {p : Parts} (within : p.Within r) {τ : Template}
    (children : τ.children = p.children) (own : τ.head.attrs = [] ∨ τ.head.attrs = p.attrs) :
    Template.Within r τ := by
  obtain ⟨height, fringe, size⟩ := within
  constructor
  · have tall : 2 * τ.head.fringe + 1 ≤ r.depth := by
      have flat := τ.head.fringe_le
      by_cases none : τ.head.attrs = []
      · rw [none, List.isEmpty_nil, if_pos rfl] at flat
        omega
      · have deep := fringe (own.resolve_left none ▸ none)
        split at flat <;> omega
    rw [height_eq, children]
    omega
  · rw [size_eq, children]
    omega

/-- A node reaches no further than the value it is decoded from, when its children do not. -/
theorem within_tagged {child : Decoder Template}
    (inner : ∀ source x c, child source x = .ok c → Within x c) {source : Json.Source} {r : Reading}
    {τ : Template} (read : (tagged child).decode source r = .ok τ) : Within r τ := by
  obtain ⟨v, body, opened, read⟩ := Tagged.decode_opened read
  have made {name title : String} {fields : List (Slot Parts)} {make : Parts → Template}
      (known : ∀ f ∈ fields, f ∈ Parts.fields child)
      (shape : ∀ p, (make p).children = p.children ∧
        ((make p).head.attrs = [] ∨ (make p).head.attrs = p.attrs))
      (decoded : (variant name title fields make).decode .held body = .ok τ) : Within r τ := by
    obtain ⟨p, stored, rfl⟩ := Json.ok_of_map decoded
    have blank : Parts.Within r {} :=
      ⟨opened.collection, fun present => absurd rfl present,
        Reading.collections_pos opened.collection⟩
    have within : p.Within r := by
      refine Shape.decode_induct blank ?_ stored
      intro source _ f among x member store read q within
      exact Parts.within_field inner (known f among) (opened.parts x member) read within
    exact within.within_template (shape p).1 (shape p).2
  have known := opened.known
  simp only [tagged, List.mem_cons, List.not_mem_nil, or_false] at known
  rcases known with rfl | rfl | rfl | rfl | rfl
  · exact made (by simp [Parts.fields]) (fun p => ⟨rfl, .inl rfl⟩) read
  · exact made (by simp [Parts.fields]) (fun p => ⟨rfl, .inl rfl⟩) read
  · exact made (by simp [elementFields, Parts.fields]) (fun p => ⟨rfl, .inr rfl⟩) read
  · exact made (by simp [elementFields, Parts.fields]) (fun p => ⟨rfl, .inr rfl⟩) read
  · exact made (by simp [Parts.fields]) (fun p => ⟨rfl, .inl rfl⟩) read

theorem within_decodeTo (n : Nat) {source : Json.Source} {r : Reading} {τ : Template}
    (read : decodeTo n source r = .ok τ) : Within r τ := by
  induction n generalizing source r τ with
  | zero => exact within_tagged (fun _ _ _ failed => by cases failed) read
  | succ n ih => exact within_tagged (fun _ _ _ => ih) read

theorem within_decode {source : Json.Source} {r : Reading} {τ : Template}
    (read : decode source r = .ok τ) : Within r τ := within_decodeTo r.depth read

theorem depth_of_decodeTo {n room : Nat} {r : Reading} {τ : Template}
    (read : decodeTo n (.reading room) r = .ok τ) : r.depth ≤ room := by
  cases n with
  | zero => exact Tagged.depth_of_decode read
  | succ n => exact Tagged.depth_of_decode read

theorem depth_of_decode {room : Nat} {r : Reading} {τ : Template}
    (read : decode (.reading room) r = .ok τ) : r.depth ≤ room := depth_of_decodeTo read

end Template

end TemplateWiring
