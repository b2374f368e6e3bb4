import Mathlib.Data.List.Permutation
import TemplateWiring.Proofs.Json.Tagged
import TemplateWiring.Proofs.Json.Tolerance

namespace TemplateWiring.Json

variable {φ σ : Type} {layout : Layout φ}

theorem chooseTag_held {names : List String} {source : Source} {r : Reading} {k : Nat}
    (chosen : chooseTag names source r = .ok k) : chooseTag names .held r = .ok k := by
  unfold chooseTag at chosen
  split at chosen
  · exact chosen
  · exact chosen
  · exact absurd chosen (Decoder.refuse_ne_ok _ _ _)

/-- The number of the variant that a value names, in a field or as its first item. -/
def variant? (tag : String) (names : List String) (r : Reading) : Option Nat :=
  let given : Option Reading :=
    match r with
    | .object ms _ => (ms.find? fun m => m.1 == .name tag).map (·.2)
    | .list items _ => items.head?
    | _ => none
  given.bind fun x => (chooseTag names .held x).toOption

theorem variant_list (tag : String) {names : List String} {source : Source} {first : Reading}
    {k : Nat} (named : chooseTag names source first = .ok k) (rest : List Reading)
    (stop : Option Stop) : variant? tag names (.list (first :: rest) stop) = some k := by
  simp [variant?, chooseTag_held named, Except.toOption]

/-- Behind the name of a variant a form has what the form of the variant has. -/
structure Layout.Opens (layout : Layout φ) (form body : φ) (tag : String) (r : Reading) : Prop where
  member : ∀ b name, name ≠ tag → layout.field? form r name = layout.field? body b name
  item : ∀ b i, (layout.fields form r)[i + 1]? = (layout.fields body b)[i]?
  rest : layout.item form = layout.item body

namespace Layout.Opens

variable {form body : φ} {tag : String} {r : Reading}

theorem formOfMember (opens : layout.Opens form body tag r) {name : String} (apart : name ≠ tag)
    (b : Reading) :
    layout.formOfMember form r (.name name) = layout.formOfMember body b (.name name) := by
  rw [Layout.formOfMember, Layout.formOfMember, opens.member b name apart]

theorem formOfItem (opens : layout.Opens form body tag r) (b : Reading) (i : Nat) :
    layout.formOfItem form r (i + 1) = layout.formOfItem body b i := by
  rw [Layout.formOfItem, Layout.formOfItem, opens.item b i, opens.rest]

theorem of_cons (form' : φ) (fields : ∀ b, layout.fields form r =
    ⟨tag, form', none⟩ :: layout.fields body b) (rest : layout.item form = layout.item body) :
    layout.Opens form body tag r := by
  constructor
  case rest => exact rest
  case item =>
    intro b i
    rw [fields b, List.getElem?_cons_succ]
  case member =>
    intro b name apart
    rw [Layout.field?, fields b, List.find?_cons_of_neg (by simpa using Ne.symm apart)]
    rfl

theorem plain (tag : String) (r : Reading) : layout.Opens layout.plain layout.plain tag r := by
  constructor
  case rest => rfl
  case item =>
    intro b i
    rw [layout.fields_plain, layout.fields_plain]
    rfl
  case member =>
    intro b name _
    rw [Layout.field?, Layout.field?, layout.fields_plain, layout.fields_plain]

end Layout.Opens

structure Variant.Extends (v other : Variant σ) : Prop where
  name : v.name = other.name
  decode : v.decode.Extends other.decode

namespace Tagged

variable {t : Tagged σ} {source : Source}

theorem Split.perm {ms ms' rest : List (Key × Reading)} {found : Option (Variant σ)}
    (perm : ms.Perm ms') (split : Split t source ms found rest) :
    ∃ rest', rest.Perm rest' ∧ Split t source ms' found rest' := by
  induction perm generalizing found rest with
  | nil => exact ⟨rest, .refl _, split⟩
  | cons m _ ih =>
      cases split with
      | tag chosen later =>
          obtain ⟨rest', same, later'⟩ := ih later
          exact ⟨rest', same, .tag chosen later'⟩
      | other apart whole later =>
          obtain ⟨rest', same, later'⟩ := ih later
          exact ⟨_ :: rest', same.cons _, .other apart whole later'⟩
  | swap m n ms =>
      cases split with
      | tag chosen later =>
          cases later with
          | other apart whole later => exact ⟨_, .refl _, .other apart whole (.tag chosen later)⟩
      | other apart whole later =>
          cases later with
          | tag chosen later => exact ⟨_, .refl _, .tag chosen (.other apart whole later)⟩
          | other apart' whole' later =>
              exact ⟨_, .swap _ _ _, .other apart' whole' (.other apart whole later)⟩
  | trans _ _ ih ih' =>
      obtain ⟨rest', same, split'⟩ := ih split
      obtain ⟨rest'', same', split''⟩ := ih' split'
      exact ⟨rest'', same.trans same', split''⟩

theorem Split.replace {before after rest : List (Key × Reading)} {key : Key} {r r' : Reading}
    {found : Option (Variant σ)} (split : Split t source (before ++ (key, r) :: after) found rest)
    (collection : 1 ≤ r.depth)
    (whole : source.readWhole r = .ok () → source.readWhole r' = .ok ()) :
    ∃ before' after' name, key = .name name ∧ name ≠ t.tag ∧
      rest = before' ++ (key, r) :: after' ∧
      Split t source (before ++ (key, r') :: after) found (before' ++ (key, r') :: after') := by
  induction before generalizing found rest with
  | nil =>
      cases split with
      | tag chosen later =>
          rw [(depth_of_choose chosen).1] at collection
          cases collection
      | @other name _ _ rest _ apart read later =>
          exact ⟨[], rest, name, rfl, apart, rfl, .other apart (whole read) later⟩
  | cons m before ih =>
      cases split with
      | tag chosen later =>
          obtain ⟨before', after', name, named, apart, rfl, later'⟩ := ih later
          exact ⟨before', after', name, named, apart, rfl, .tag chosen later'⟩
      | other other read later =>
          obtain ⟨before', after', name, named, apart, rfl, later'⟩ := ih later
          exact ⟨_ :: before', after', name, named, apart, rfl, .other other read later'⟩

theorem Split.variant {ms rest : List (Key × Reading)} {found : Option (Variant σ)}
    (split : Split t source ms found rest) {v : Variant σ} (here : v ∈ found)
    (stop : Option Stop) :
    (∃ m ∈ ms, m.1 = .name t.tag) ∧
      ∃ k, variant? t.tag (Variant.names t.variants) (.object ms stop) = some k ∧
        t.variants[k]? = some v := by
  induction split with
  | nil => cases here
  | tag chosen =>
      cases here
      obtain ⟨k, named, known⟩ := choose_eq_ok chosen
      refine ⟨⟨_, List.mem_cons_self, rfl⟩, k, ?_, known⟩
      simp [variant?, chooseTag_held named, Except.toOption]
  | other apart _ _ ih =>
      obtain ⟨⟨m, member, named⟩, k, variant, known⟩ := ih here
      refine ⟨⟨m, List.mem_cons_of_mem _ member, named⟩, k, ?_, known⟩
      rw [← variant]
      simp [variant?, apart]

theorem respects {form : φ} (forms : Nat → φ)
    (opens : ∀ r k, variant? t.tag (Variant.names t.variants) r = some k →
      layout.Opens form (forms k) t.tag r)
    (each : ∀ k v, t.variants[k]? = some v → Respects layout (forms k) v.decode) :
    Respects layout form t.decode := by
  intro source r r' a step admits read
  cases step with
  | @reorder _ ms ms' stop perm =>
      obtain ⟨inner, v, rest, enter, split, ended, read⟩ := decode_object.mp read
      obtain ⟨-, k, -, known⟩ := split.variant rfl stop
      obtain ⟨rest', same, split'⟩ := split.perm perm
      have read' := each k v known .held _ _ a (.reorder same) trivial read
      exact decode_object.mpr ⟨inner, v, rest', enter, split', ended, read'⟩
  | @fill _ ms stop f value field default absent =>
      obtain ⟨inner, v, rest, enter, split, ended, read⟩ := decode_object.mp read
      obtain ⟨⟨m, member, named⟩, k, variant, known⟩ := split.variant rfl stop
      have apart : f.name ≠ t.tag := fun same => absent m member (same ▸ named)
      -- The new member is read as a whole before the fields of the variant are looked at.
      have whole := Source.readWhole_sound (Reading.sound_ofJson true value)
        (admits.part enter List.mem_cons_self)
      rw [(opens _ k variant).member (.object rest none) _ apart] at field
      have absent' : ∀ m ∈ rest, m.1 ≠ .name f.name :=
        fun m member => absent m (split.sublist.subset member)
      have read' := each k v known .held _ _ a (.fill field default absent') trivial read
      exact decode_object.mpr ⟨inner, v, _, enter, .other apart whole split, ended, read'⟩
  | @member _ before after key x x' stop step =>
      obtain ⟨inner, v, rest, enter, split, ended, read⟩ := decode_object.mp read
      obtain ⟨-, k, variant, known⟩ := split.variant rfl stop
      have room := admits.part enter (List.mem_map_of_mem
        (List.mem_append_right before List.mem_cons_self))
      obtain ⟨before', after', name, rfl, apart, rfl, split'⟩ :=
        split.replace step.collection (step.readWhole room)
      rw [(opens _ k variant).formOfMember apart
        (.object (before' ++ (.name name, x) :: after') none)] at step
      have read' := each k v known .held _ _ a (.member step) trivial read
      exact decode_object.mpr ⟨inner, v, _, enter, split', ended, read'⟩
  | @extend _ items stop f value next default =>
      obtain ⟨inner, v, first, rest, rfl, enter, chosen, whole, ended, read⟩ :=
        decode_list.mp read
      obtain ⟨k, named, known⟩ := choose_eq_ok chosen
      have variant := variant_list t.tag named rest stop
      rw [List.length_cons, (opens _ k variant).item (.list rest none)] at next
      have last := Source.readWhole_sound (Reading.sound_ofJson true value)
        (admits.part enter (List.mem_append_right _ List.mem_cons_self))
      have read' := each k v known .held _ _ a (.extend next default) trivial read
      exact decode_list.mpr ⟨inner, v, first, _, rfl, enter, chosen,
        List.forall_mem_append.mpr ⟨whole, List.forall_mem_singleton.mpr last⟩, ended, read'⟩
  | @item _ before after x x' stop step =>
      obtain ⟨inner, v, first, rest, items, enter, chosen, whole, ended, read⟩ :=
        decode_list.mp read
      obtain ⟨k, named, known⟩ := choose_eq_ok chosen
      have room := admits.part enter (List.mem_append_right before List.mem_cons_self)
      cases before with
      | nil =>
          cases items
          have collection := step.collection
          rw [(depth_of_choose chosen).1] at collection
          cases collection
      | cons b before =>
          rw [List.cons_append] at items
          obtain ⟨rfl, rfl⟩ := List.cons.inj items
          have variant : variant? t.tag _ (.list (b :: before ++ x :: after) stop) = some k :=
            variant_list t.tag named (before ++ x :: after) stop
          rw [List.length_cons, (opens _ k variant).formOfItem
            (.list (before ++ x :: after) none)] at step
          have read' := each k v known .held _ _ a (.item step) trivial read
          refine decode_list.mpr ⟨inner, v, b, before ++ x' :: after, rfl, enter, chosen, ?_, ended,
            read'⟩
          rw [List.forall_mem_append, List.forall_mem_cons] at whole ⊢
          exact ⟨whole.1, step.readWhole room whole.2.1, whole.2.2⟩

theorem respects_plain (each : ∀ v ∈ t.variants, Respects layout layout.plain v.decode) :
    Respects layout layout.plain t.decode :=
  respects (fun _ => layout.plain) (fun r _ _ => .plain t.tag r) fun _ v known =>
    each v (List.mem_of_getElem? known)

section wider

variable {other : Tagged σ} (tag : t.tag = other.tag)
  (variants : List.Forall₂ Variant.Extends t.variants other.variants)
include variants

theorem choose_mono {r : Reading} {v : Variant σ} (chosen : other.choose source r = .ok v) :
    ∃ w, t.choose source r = .ok w ∧ w.Extends v := by
  have names : Variant.names t.variants = Variant.names other.variants := by
    have same := List.Forall₂.imp (fun _ _ wider => wider.name) variants
    exact List.forall₂_eq_eq_eq ▸
      List.forall₂_map_left_iff.mpr (List.forall₂_map_right_iff.mpr same)
  obtain ⟨k, named, known⟩ := choose_eq_ok chosen
  have pair := rel_getElem? variants k
  rw [known] at pair
  generalize own : t.variants[k]? = w at pair
  cases pair with
  | some wider =>
      refine ⟨_, ?_, wider⟩
      simp only [choose, names, named, own, bind, Except.bind]
      rfl

include tag

theorem Split.mono {ms rest : List (Key × Reading)} {found : Option (Variant σ)}
    (split : Split other source ms found rest) :
    ∃ found', Split t source ms found' rest ∧ Option.Rel Variant.Extends found' found := by
  induction split with
  | nil => exact ⟨none, .nil, .none⟩
  | tag chosen _ ih =>
      obtain ⟨found', split, pair⟩ := ih
      cases pair with
      | none =>
          obtain ⟨w, chosen', wider⟩ := choose_mono variants chosen
          exact ⟨some w, tag ▸ .tag chosen' split, .some wider⟩
  | other apart whole _ ih =>
      obtain ⟨found', split, pair⟩ := ih
      exact ⟨found', .other (tag ▸ apart) whole split, pair⟩

theorem extends_decode : t.decode.Extends other.decode := by
  intro source r a read
  have collection : 1 ≤ r.depth := by
    obtain ⟨v, body, opened, -⟩ := decode_opened read
    exact opened.collection
  cases r with
  | object ms stop =>
      obtain ⟨inner, v, rest, enter, split, ended, read⟩ := decode_object.mp read
      obtain ⟨found, split', pair⟩ := split.mono tag variants
      cases pair with
      | some wider =>
          exact decode_object.mpr ⟨inner, _, rest, enter, split', ended,
            wider.decode _ _ _ read⟩
  | list items stop =>
      obtain ⟨inner, v, first, rest, items, enter, chosen, whole, ended, read⟩ :=
        decode_list.mp read
      obtain ⟨w, chosen', wider⟩ := choose_mono variants chosen
      exact decode_list.mpr ⟨inner, w, first, rest, items, enter, chosen', whole, ended,
        wider.decode _ _ _ read⟩
  | _ => cases collection

end wider

end Tagged

namespace Variant

theorem respects_map {α : Type} {form : φ} {d : Decoder α} (respects : Respects layout form d)
    (name : String) (make : α → σ) :
    Respects layout form (Variant.mk name fun source r => (d source r).map make).decode :=
  Decoder.respects_map respects make

theorem respects_constant (name : String) (value : σ) :
    Respects layout layout.plain (constant name value).decode := by
  intro source r r' v step _ read
  cases step with
  | reorder | fill | member => exact read
  | extend next =>
      rw [layout.fields_plain] at next
      cases next
  | item step =>
      obtain ⟨⟨⟩, closed, -⟩ := ok_of_bind read
      obtain ⟨none, -⟩ := Decoder.close_eq_ok.mp closed
      exact absurd none (by simp)

end Variant

def Case.IsFlat (c : Case σ) : Prop :=
  ∀ source r v, c.decode source r = .ok v →
    r.Sound true ∧ r.depth = 0 ∧ ∀ other, c.decode other r = .ok v

theorem Case.null_of_constant {title name variant : String} {value v : σ} {source : Source}
    {r : Reading} (read : (constant title name variant value).decode source r = .ok v) :
    r = .null ∧ v = value := by
  dsimp only [constant] at read
  split at read
  · cases read
    exact ⟨rfl, rfl⟩
  next other =>
    split at read
    case h_1 | h_2 =>
      obtain ⟨-, -, refused⟩ := ok_of_bind read
      exact absurd refused (Decoder.refuse_ne_ok _ _ _)
    case h_3 => exact absurd read (Decoder.refuse_ne_ok _ _ _)

theorem Case.isFlat_constant (title name variant : String) (value : σ) :
    (constant title name variant value).IsFlat := by
  intro source r v read
  obtain ⟨rfl, rfl⟩ := null_of_constant read
  exact ⟨.null, rfl, fun _ => rfl⟩

namespace Adjacent

variable {a : Adjacent σ} {source : Source}

theorem Picked.perm {ms ms' : List (Key × Reading)} {found : List (Bool × Reading)}
    (perm : ms.Perm ms') (picked : Picked a source ms found) :
    ∃ found', found.Perm found' ∧ Picked a source ms' found' := by
  induction perm generalizing found with
  | nil => exact ⟨found, .refl _, picked⟩
  | cons m _ ih =>
      cases picked with
      | tag later =>
          obtain ⟨found', same, later'⟩ := ih later
          exact ⟨_ :: found', same.cons _, .tag later'⟩
      | content apart later =>
          obtain ⟨found', same, later'⟩ := ih later
          exact ⟨_ :: found', same.cons _, .content apart later'⟩
      | skip apart apart' passed later =>
          obtain ⟨found', same, later'⟩ := ih later
          exact ⟨found', same, .skip apart apart' passed later'⟩
  | swap m n ms =>
      cases picked with
      | tag later =>
          cases later with
          | tag later => exact ⟨_, .swap _ _ _, .tag (.tag later)⟩
          | content apart later => exact ⟨_, .swap _ _ _, .content apart (.tag later)⟩
          | skip apart apart' passed later =>
              exact ⟨_, .refl _, .skip apart apart' passed (.tag later)⟩
      | content differ later =>
          cases later with
          | tag later => exact ⟨_, .swap _ _ _, .tag (.content differ later)⟩
          | content differ' later =>
              exact ⟨_, .swap _ _ _, .content differ' (.content differ later)⟩
          | skip apart apart' passed later =>
              exact ⟨_, .refl _, .skip apart apart' passed (.content differ later)⟩
      | skip apart apart' passed later =>
          cases later with
          | tag later => exact ⟨_, .refl _, .tag (.skip apart apart' passed later)⟩
          | content differ later =>
              exact ⟨_, .refl _, .content differ (.skip apart apart' passed later)⟩
          | skip other other' passed' later =>
              exact ⟨_, .refl _, .skip other other' passed' (.skip apart apart' passed later)⟩
  | trans _ _ ih ih' =>
      obtain ⟨found', same, picked'⟩ := ih picked
      obtain ⟨found'', same', picked''⟩ := ih' picked'
      exact ⟨found'', same.trans same', picked''⟩

theorem Picked.replace {before after : List (Key × Reading)} {key : Key} {r r' : Reading}
    {found : List (Bool × Reading)} (picked : Picked a source (before ++ (key, r) :: after) found)
    (flat : ∀ m ∈ found, m.2.depth = 0) (collection : 1 ≤ r.depth)
    (passed : source.skip r = .ok () → source.skip r' = .ok ()) :
    Picked a source (before ++ (key, r') :: after) found := by
  induction before generalizing found with
  | nil =>
      cases picked with
      | tag =>
          have own : r.depth = 0 := flat _ List.mem_cons_self
          omega
      | content =>
          have own : r.depth = 0 := flat _ List.mem_cons_self
          omega
      | skip apart apart' skipped later => exact .skip apart apart' (passed skipped) later
  | cons m before ih =>
      cases picked with
      | tag later => exact .tag (ih later (List.forall_mem_cons.mp flat).2)
      | content apart later => exact .content apart (ih later (List.forall_mem_cons.mp flat).2)
      | skip apart apart' skipped later => exact .skip apart apart' skipped (ih later flat)

section flat

variable (plain : ∀ c ∈ a.cases, c.IsFlat)
include plain

theorem Settles.flat {found : List (Bool × Reading)} {v : σ} (settles : Settles a source found v) :
    ∀ m ∈ found, m.2.depth = 0 := by
  cases settles with
  | bare chosen =>
      exact List.forall_mem_singleton.mpr (choose_eq_ok chosen).1
  | tagged chosen read =>
      obtain ⟨name, known⟩ := choose_eq_ok chosen
      obtain ⟨-, content, -⟩ := plain _ known _ _ _ read
      exact List.forall_mem_cons.mpr ⟨name, List.forall_mem_singleton.mpr content⟩
  | buffered whole chosen read =>
      obtain ⟨name, known⟩ := choose_eq_ok chosen
      obtain ⟨-, content, -⟩ := plain _ known _ _ _ read
      exact List.forall_mem_cons.mpr ⟨content, List.forall_mem_singleton.mpr name⟩

/-- The content may come before the name of the variant. -/
theorem Settles.perm {found found' : List (Bool × Reading)} {v : σ}
    (settles : Settles a source found v) (perm : found.Perm found') :
    Settles a source found' v := by
  cases settles with
  | bare chosen bare =>
      obtain rfl := List.perm_singleton.mp perm.symm
      exact .bare chosen bare
  | @tagged x y c _ chosen read =>
      rcases List.pair_perm.mp perm with rfl | rfl
      · exact .tagged chosen read
      · obtain ⟨sound, content, alike⟩ := plain c (choose_eq_ok chosen).2 _ _ _ read
        have whole : source.readWhole y = .ok () := by
          cases source with
          | held => rfl
          | reading room =>
              exact Source.readWhole_sound sound (content ▸ Nat.zero_le room)
        exact .buffered whole chosen (alike .held)
  | buffered whole chosen read =>
      rcases List.pair_perm.mp perm with rfl | rfl
      · exact .buffered whole chosen read
      · obtain ⟨-, -, alike⟩ := plain _ (choose_eq_ok chosen).2 _ _ _ read
        exact .tagged chosen (alike source)

theorem flat_of_list {items : List Reading} {stop : Option Stop} {v : σ}
    (read : a.decode source (.list items stop) = .ok v) : ∀ x ∈ items, x.depth = 0 := by
  obtain ⟨inner, -, read⟩ := ok_of_bind read
  match items with
  | [] =>
      obtain ⟨-, -, read⟩ := ok_of_bind read
      cases read
  | [_] =>
      obtain ⟨-, -, read⟩ := ok_of_bind read
      obtain ⟨-, -, read⟩ := ok_of_bind read
      cases read
  | tag :: content :: rest =>
      obtain ⟨c, chosen, onward⟩ := ok_of_bind read
      obtain ⟨value, held, onward⟩ := ok_of_bind onward
      obtain ⟨⟨⟩, closed, -⟩ := ok_of_bind onward
      obtain ⟨rfl, -⟩ := Decoder.close_eq_ok.mp closed
      obtain ⟨name, known⟩ := choose_eq_ok chosen
      obtain ⟨-, content, -⟩ := plain c known _ _ _ held
      exact List.forall_mem_cons.mpr ⟨name, List.forall_mem_singleton.mpr content⟩

theorem respects : Respects layout layout.plain a.decode := by
  intro source r r' v step admits read
  cases step with
  | reorder perm =>
      obtain ⟨inner, found, enter, picked, settles, ended⟩ := decode_object.mp read
      obtain ⟨found', same, picked'⟩ := picked.perm perm
      exact decode_object.mpr ⟨inner, found', enter, picked', settles.perm plain same, ended⟩
  | fill known =>
      rw [layout.field?_plain] at known
      cases known
  | extend next =>
      rw [layout.fields_plain] at next
      cases next
  | member step =>
      obtain ⟨inner, found, enter, picked, settles, ended⟩ := decode_object.mp read
      exact decode_object.mpr ⟨inner, found, enter,
        picked.replace (settles.flat plain) step.collection step.skip, settles, ended⟩
  | @item _ before after x x' stop step =>
      have collection := step.collection
      rw [flat_of_list plain read x (List.mem_append_right _ List.mem_cons_self)] at collection
      cases collection

end flat

end Adjacent

end TemplateWiring.Json
