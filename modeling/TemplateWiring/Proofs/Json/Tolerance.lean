import Mathlib.Data.List.Pairwise
import Mathlib.Logic.Relation
import TemplateWiring.Proofs.Json.Rewriting
import TemplateWiring.Proofs.Json.Decoding

namespace TemplateWiring.Json

variable {φ : Type} {layout : Layout φ}

/-- What is accepted is accepted when it is written in another way, and decoded as the same. -/
def Respects {α : Type} (layout : Layout φ) (form : φ) (d : Decoder α) : Prop :=
  ∀ source r r' a, layout.Step form r r' → source.Admits r'.depth → d source r = .ok a →
    d source r' = .ok a

def Layout.Rewritten (layout : Layout φ) (form : φ) (text text' : String) : Prop :=
  ∃ r r', Reading.ofText text = (r, false) ∧ Reading.ofText text' = (r', false) ∧
    Relation.ReflTransGen (layout.Step form) r r'

/-- A text that is accepted is accepted when it is written in another way, unless that is too deep,
and decoded as the same. -/
def Tolerates {α : Type} (layout : Layout φ) (form : φ) (d : Decoder α) : Prop :=
  ∀ text text' a, decodeText d text = .ok a → layout.Rewritten form text text' →
    (Reading.ofText text').1.depth ≤ maxDepth → decodeText d text' = .ok a

theorem tolerates_of_respects {α : Type} {form : φ} {d : Decoder α}
    (respects : Respects layout form d) : Tolerates layout form d := by
  intro text text' a decoded ⟨r, r', read, read', steps⟩ shallow
  have first := decodeText_ok decoded
  rw [read] at first
  rw [read'] at shallow
  have last : d (.reading maxDepth) r' = .ok a := by
    clear read'
    induction steps with
    | refl => exact first
    | tail _ step ih =>
        exact respects _ _ _ a step shallow (ih (Nat.le_trans step.depth_le shallow))
  simp only [decodeText, read', last]
  rfl

section related

variable {α β : Type} {R : α → β → Prop} {as : List α} {bs : List β}

theorem rel_find? {name : α → String} {name' : β → String} (all : List.Forall₂ R as bs)
    (same : ∀ a b, R a b → name a = name' b) (key : String) :
    Option.Rel R (as.find? (name · == key)) (bs.find? (name' · == key)) := by
  induction all with
  | nil => exact .none
  | @cons a b _ _ first _ ih =>
      rw [List.find?_cons, List.find?_cons, same a b first]
      cases name' b == key with
      | true => exact .some first
      | false => exact ih

theorem rel_getElem? (all : List.Forall₂ R as bs) (i : Nat) : Option.Rel R as[i]? bs[i]? := by
  induction all generalizing i with
  | nil => exact .none
  | cons first _ ih =>
      cases i with
      | zero => exact .some first
      | succ i => exact ih i

theorem forall₂_replace {before after : List α} {a a' : α}
    (each : List.Forall₂ R (before ++ a :: after) bs) (same : ∀ b, R a b → R a' b) :
    List.Forall₂ R (before ++ a' :: after) bs := by
  induction before generalizing bs with
  | nil =>
      cases each with
      | cons first rest => exact .cons (same _ first) rest
  | cons _ _ ih =>
      cases each with
      | cons first rest => exact .cons first (ih rest)

end related

namespace Decoder

variable {α β : Type} {d : Decoder α} {form : φ}

def Extends (d other : Decoder α) : Prop :=
  ∀ source r a, other source r = .ok a → d source r = .ok a

theorem respects_flat (flat : ∀ source r a, d source r = .ok a → r.depth = 0) :
    Respects layout form d := by
  intro source r r' a step _ read
  have collection := step.collection
  rw [flat source r a read] at collection
  cases collection

theorem respects_string : Respects layout form string :=
  respects_flat fun _ _ _ read => string_ok read ▸ rfl

theorem respects_boolean : Respects layout form boolean :=
  respects_flat fun _ _ _ read => boolean_ok read ▸ rfl

theorem respects_natural (limit : Nat) (title : String) :
    Respects layout form (natural limit title) :=
  respects_flat fun _ _ _ read => (natural_ok read).1 ▸ rfl

theorem respects_map (respects : Respects layout form d) (f : α → β) :
    Respects layout form fun source r => (d source r).map f := by
  intro source r r' b step admits read
  obtain ⟨a, decoded, rfl⟩ := ok_of_map read
  exact congrArg (Except.map f) (respects source r r' a step admits decoded)

theorem respects_word32 : Respects layout form word32 :=
  respects_map (respects_natural _ _) Nat.toUInt32

theorem respects_size : Respects layout form size := respects_natural _ _

theorem nullable_collection (source : Source) {r : Reading} (collection : 1 ≤ r.depth) :
    nullable d source r = (d source r).map some := by
  cases r with
  | null => cases collection
  | _ => rfl

theorem respects_nullable (respects : Respects layout form d) :
    Respects layout form (nullable d) := by
  intro source r r' a step admits read
  -- A collection is not null, and neither is what it is rewritten to.
  have collection := step.collection
  rw [nullable_collection source collection] at read
  rw [nullable_collection source (Nat.le_trans collection step.depth_le)]
  exact respects_map respects some source r r' a step admits read

theorem respects_list (bare : ∀ r, layout.fields form r = [])
    (respects : Respects layout (layout.item form) d) : Respects layout form (list d) := by
  intro source r r' as step admits read
  obtain ⟨-, items, stop, -, rfl, -⟩ := list_ok read
  cases step with
  | extend next =>
      rw [bare] at next
      cases next
  | @item _ before after x x' _ inner =>
      obtain ⟨source', enter, ended, each⟩ := list_eq_ok.mp read
      have room := admits.part enter (List.mem_append_right before List.mem_cons_self)
      rw [Layout.formOfItem, bare] at inner
      exact list_eq_ok.mpr ⟨source', enter, ended, forall₂_replace each fun a decoded =>
        respects source' x x' a inner room decoded⟩

theorem extends_map {other : Decoder α} (wider : d.Extends other) (f : α → β) :
    Extends (fun source r => (d source r).map f) fun source r => (other source r).map f := by
  intro source r b read
  obtain ⟨a, decoded, rfl⟩ := ok_of_map read
  exact congrArg (Except.map f) (wider source r a decoded)

theorem extends_list {other : Decoder α} (wider : d.Extends other) :
    (list d).Extends (list other) := by
  intro source r as read
  obtain ⟨inner, items, stop, enter, rfl, each⟩ := list_ok read
  obtain ⟨-, -, ended, -⟩ := list_eq_ok.mp read
  exact list_eq_ok.mpr ⟨inner, enter, ended, each.imp fun x a => wider inner x a⟩

end Decoder

namespace Slot

variable {σ : Type}

/-- Whatever is stored in the other field is stored in this one. -/
structure Extends (f other : Slot σ) : Prop where
  name : f.name = other.name
  needed : f.needed = other.needed
  neededInList : f.neededInList = other.neededInList
  decode : ∀ source r own, other.decode source r = .ok own → f.decode source r = .ok own

theorem Extends.refl (f : Slot σ) : f.Extends f := ⟨rfl, rfl, rfl, fun _ _ _ => id⟩

/-- What the one field stores and what the other stores do not touch each other. -/
def Commute (f g : Slot σ) : Prop :=
  ∀ source source' r r' own other, f.decode source r = .ok own → g.decode source' r' = .ok other →
    ∀ s, own (other s) = other (own s)

instance : Std.Symm (@Commute σ) where
  symm _ _ commute _ _ _ _ _ _ read read' s := (commute _ _ _ _ _ _ read' read s).symm

variable {α β : Type} {name name' : String} {d : Decoder α} {d' : Decoder β} {store : α → σ → σ}
  {store' : β → σ → σ} {needed needed' neededInList neededInList' : Bool}

@[simp]
theorem commute_mk (stores : ∀ a b s, store a (store' b s) = store' b (store a s)) :
    Commute ⟨name, reading d store, needed, neededInList⟩
      ⟨name', reading d' store', needed', neededInList'⟩ := by
  intro source source' r r' keep keep' read read' s
  obtain ⟨a, -, rfl⟩ := ok_of_map read
  obtain ⟨b, -, rfl⟩ := ok_of_map read'
  exact stores a b s

theorem respects_required {form : φ} (respects : Respects layout form d) :
    Respects layout form (required name d store).decode := Decoder.respects_map respects store

end Slot

namespace Shape

variable {σ : Type} {sh : Shape σ} {source : Source}

theorem Taken.perm (commute : sh.fields.Pairwise Slot.Commute) {ms ms' : List (Key × Reading)}
    (perm : ms.Perm ms') {names : List String} {store : σ → σ}
    (taken : Taken sh source ms names store) :
    ∃ names', names.Perm names' ∧ Taken sh source ms' names' store := by
  induction perm generalizing names store with
  | nil => exact ⟨names, .refl _, taken⟩
  | cons m _ ih =>
      cases taken with
      | skip unknown passed rest =>
          obtain ⟨names', same, rest'⟩ := ih rest
          exact ⟨names', same, .skip unknown passed rest'⟩
      | take found fresh read rest =>
          obtain ⟨names', same, rest'⟩ := ih rest
          exact ⟨_ :: names', same.cons _,
            .take found (fun member => fresh (same.mem_iff.mpr member)) read rest'⟩
  | swap m n ms =>
      cases taken with
      | skip unknown passed rest =>
          cases rest with
          | skip unknown' passed' rest =>
              exact ⟨names, .refl _, .skip unknown' passed' (.skip unknown passed rest)⟩
          | take found fresh read rest =>
              exact ⟨_, .refl _, .take found fresh read (.skip unknown passed rest)⟩
      | @take name r _ _ own _ f found fresh read rest =>
          cases rest with
          | skip unknown passed rest =>
              exact ⟨_, .refl _, .skip unknown passed (.take found fresh read rest)⟩
          | @take other r' _ _ own' store g found' fresh' read' rest =>
              -- The names differ, or the second would have been stored twice.
              obtain ⟨apart, new⟩ := not_or.mp (fun among => fresh (List.mem_cons.mpr among))
              have fields : Slot.Commute f g := by
                refine commute.forall (List.mem_of_find?_eq_some found)
                  (List.mem_of_find?_eq_some found') ?_
                rintro rfl
                have one := List.find?_some found
                have two := List.find?_some found'
                simp only [beq_iff_eq] at one two
                exact apart (one.symm.trans two)
              have swapped : (store ∘ own') ∘ own = (store ∘ own) ∘ own' := by
                funext s
                exact congrArg store (fields _ _ _ _ _ _ read read' s).symm
              rw [swapped]
              refine ⟨_, .swap _ _ _, .take found' ?_ read' (.take found new read rest)⟩
              rw [List.mem_cons, not_or]
              exact ⟨fun same => apart same.symm, fresh'⟩
  | trans _ _ ih ih' =>
      obtain ⟨names', same, taken'⟩ := ih taken
      obtain ⟨names'', same', taken''⟩ := ih' taken'
      exact ⟨names'', same.trans same', taken''⟩

theorem Taken.replace {before after : List (Key × Reading)} {key : Key} {r r' : Reading}
    {names : List String} {store : σ → σ}
    (taken : Taken sh source (before ++ (key, r) :: after) names store)
    (passed : source.skip r = .ok () → source.skip r' = .ok ())
    (same : ∀ name f own, key = .name name → sh.fields.find? (·.name == name) = some f →
      f.decode source r = .ok own → f.decode source r' = .ok own) :
    Taken sh source (before ++ (key, r') :: after) names store := by
  induction before generalizing names store with
  | nil =>
      cases taken with
      | skip unknown skipped rest => exact .skip unknown (passed skipped) rest
      | take found fresh read rest => exact .take found fresh (same _ _ _ rfl found read) rest
  | cons m before ih =>
      cases taken with
      | skip unknown skipped rest => exact .skip unknown skipped (ih rest)
      | take found fresh read rest => exact .take found fresh read (ih rest)

variable {stop : Option Stop} {fs : List (Slot σ)} {rs : List Reading} {store : σ → σ}

/-- One more item, for the first field that was left out. -/
theorem Filled.extend (commute : fs.Pairwise Slot.Commute)
    (filled : Filled source stop fs rs store) {f : Slot σ} (next : fs[rs.length]? = some f)
    {r : Reading} {own : σ → σ} (read : f.decode source r = .ok own) :
    ∃ store', Filled source stop fs (rs ++ [r]) store' ∧ ∀ s, store' s = store (own s) := by
  induction filled with
  | full => cases next
  | @short g fs store ended free rest =>
      cases next
      exact ⟨store ∘ own, .take read rest, fun _ => rfl⟩
  | @take g fs r' rs own' store read' _ ih =>
      obtain ⟨apart, commute⟩ := List.pairwise_cons.mp commute
      obtain ⟨store', filled, made⟩ := ih commute next
      refine ⟨store' ∘ own', .take read' filled, fun s => ?_⟩
      have swap := apart f (List.mem_of_getElem? next) _ _ _ _ _ _ read' read s
      exact (made _).trans (congrArg store swap.symm)

theorem Filled.replace {before after : List Reading} {r r' : Reading}
    (filled : Filled source stop fs (before ++ r :: after) store)
    (same : ∀ f own, fs[before.length]? = some f → f.decode source r = .ok own →
      f.decode source r' = .ok own) :
    Filled source stop fs (before ++ r' :: after) store := by
  induction before generalizing fs store with
  | nil =>
      cases filled with
      | take read rest => exact .take (same _ _ rfl read) rest
  | cons x before ih =>
      cases filled with
      | take read rest => exact .take read (ih rest same)

/-- What is stored for the value is there already when nothing is stored. -/
def Idle (sh : Shape σ) (f : Slot σ) (value : Json) : Prop :=
  ∃ own, Decoder.Reads f.decode value own ∧ own sh.blank = sh.blank

structure Fits (layout : Layout φ) (form : φ) (sh : Shape σ) : Prop where
  commute : sh.fields.Pairwise Slot.Commute
  member : ∀ r name f, sh.fields.find? (·.name == name) = some f →
    Respects layout (layout.formOfMember form r (.name name)) f.decode
  item : ∀ r (i : Nat) f, sh.fields[i]? = some f →
    Respects layout (layout.formOfItem form r i) f.decode
  fill : ∀ r name (field : Layout.Field φ) value,
    layout.field? form r name = some field → field.default? = some value →
      ∃ f, sh.fields.find? (·.name == name) = some f ∧ sh.Idle f value
  extend : ∀ r (i : Nat) (field : Layout.Field φ) value,
    (layout.fields form r)[i]? = some field → field.default? = some value →
      ∃ f, sh.fields[i]? = some f ∧ sh.Idle f value

theorem respects {form : φ} (fits : Fits layout form sh) : Respects layout form sh.decode := by
  intro source r r' s step admits read
  cases step with
  | reorder perm =>
      obtain ⟨inner, names, store, enter, taken, ended, complete, made⟩ := decode_object.mp read
      obtain ⟨names', same, taken'⟩ := taken.perm fits.commute perm
      exact decode_object.mpr ⟨inner, names', store, enter, taken', ended,
        fun f known needed => same.mem_iff.mp (complete f known needed), made⟩
  | fill known default absent =>
      obtain ⟨inner, names, store, enter, taken, ended, complete, rfl⟩ := decode_object.mp read
      obtain ⟨f, found, own, reads, idle⟩ := fits.fill _ _ _ _ known default
      have room := admits.part enter List.mem_cons_self
      have fresh := fun member =>
        have ⟨m, among, key⟩ := taken.names _ member
        absent m among key
      refine decode_object.mpr ⟨inner, _, store ∘ own, enter,
        .take found fresh (reads.read inner room) taken, ended, fun g known needed =>
          List.mem_cons_of_mem _ (complete g known needed), ?_⟩
      exact congrArg store idle.symm
  | extend next default =>
      obtain ⟨inner, store, enter, filled, rfl⟩ := decode_list.mp read
      obtain ⟨f, found, own, reads, idle⟩ := fits.extend _ _ _ _ next default
      have room := admits.part enter (List.mem_append_right _ List.mem_cons_self)
      obtain ⟨store', filled', made⟩ :=
        filled.extend fits.commute found (reads.read inner room)
      refine decode_list.mpr ⟨inner, store', enter, filled', ?_⟩
      rw [made, idle]
  | member step =>
      obtain ⟨inner, names, store, enter, taken, ended, complete, made⟩ := decode_object.mp read
      have room := admits.part enter (List.mem_map_of_mem
        (List.mem_append_right _ List.mem_cons_self))
      refine decode_object.mpr ⟨inner, names, store, enter,
        taken.replace step.skip fun name f own key found => ?_, ended, complete, made⟩
      subst key
      exact fits.member _ name f found inner _ _ own step room
  | item step =>
      obtain ⟨inner, store, enter, filled, made⟩ := decode_list.mp read
      have room := admits.part enter (List.mem_append_right _ List.mem_cons_self)
      exact decode_list.mpr ⟨inner, store, enter, filled.replace fun f own found =>
        fits.item _ _ f found inner _ _ own step room, made⟩

structure Matches (layout : Layout φ) (sh : Shape σ) (field : Layout.Field φ) (f : Slot σ) :
    Prop where
  name : field.name = f.name
  respects : Respects layout field.form f.decode
  idle : ∀ value ∈ field.default?, sh.Idle f value

section matching

variable {α : Type} {d : Decoder α} {name : String} {form : φ}

theorem matches_required {store : α → σ → σ} (respects : Respects layout form d) :
    Matches layout sh ⟨name, form, none⟩ (Slot.required name d store) :=
  ⟨rfl, Decoder.respects_map respects store, nofun⟩

theorem matches_defaulted {store : α → σ → σ} {value : Json} {a : α}
    (respects : Respects layout form d) (reads : Decoder.Reads d value a)
    (idle : store a sh.blank = sh.blank) :
    Matches layout sh ⟨name, form, some value⟩ (Slot.defaulted name d store) := by
  refine ⟨rfl, Decoder.respects_map respects store, fun other same => ?_⟩
  cases same
  exact ⟨store a, reads.map store, idle⟩

theorem matches_nullable {store : Option α → σ → σ} (respects : Respects layout form d)
    (idle : store none sh.blank = sh.blank) :
    Matches layout sh ⟨name, form, some .null⟩ (Slot.nullable name d store) := by
  refine ⟨rfl, Decoder.respects_map (Decoder.respects_nullable respects) store,
    fun other same => ?_⟩
  cases same
  exact ⟨store none, Decoder.reads_none.map store, idle⟩

theorem matches_list {store : List α → σ → σ} (bare : ∀ r, layout.fields form r = [])
    (respects : Respects layout (layout.item form) d) (idle : store [] sh.blank = sh.blank) :
    Matches layout sh ⟨name, form, some (.arr [])⟩
      (Slot.defaulted name (Decoder.list d) store) := by
  have reads : Decoder.Reads (Decoder.list d) (.arr []) [] :=
    @Decoder.reads_list α d (fun _ => .null) [] (List.forall_mem_nil _)
  exact matches_defaulted (Decoder.respects_list bare respects) reads idle

end matching

theorem reads_empty (free : ∀ f ∈ sh.fields, f.needed = false) :
    Decoder.Reads sh.decode (.obj []) sh.blank := by
  refine ⟨.obj (List.forall_mem_nil _), fun source admits => ?_⟩
  obtain ⟨inner, enter, -⟩ := admits.enter_obj
  exact decode_object.mpr ⟨inner, [], id, enter, .nil, rfl,
    fun f known needed => absurd needed (by simp [free f known]), rfl⟩

theorem fits_of_matches {form : φ} (commute : sh.fields.Pairwise Slot.Commute)
    (all : ∀ r, List.Forall₂ (Matches layout sh) (layout.fields form r) sh.fields) :
    Fits layout form sh := by
  constructor
  case commute => exact commute
  case member =>
    intro r name f found
    have pair := rel_find? (all r) (fun _ _ matching => matching.name) name
    rw [found] at pair
    rw [Layout.formOfMember, Layout.field?]
    generalize (layout.fields form r).find? (·.name == name) = field at pair ⊢
    cases pair with
    | some matching => exact matching.respects
  case item =>
    intro r i f found
    have pair := rel_getElem? (all r) i
    rw [found] at pair
    rw [Layout.formOfItem]
    generalize (layout.fields form r)[i]? = field at pair ⊢
    cases pair with
    | some matching => exact matching.respects
  case fill =>
    intro r name field value known default
    have pair := rel_find? (all r) (fun _ _ matching => matching.name) name
    rw [Layout.field?] at known
    rw [known] at pair
    generalize sh.fields.find? (·.name == name) = f at pair ⊢
    cases pair with
    | some matching => exact ⟨_, rfl, matching.idle value default⟩
  case extend =>
    intro r i field value known default
    have pair := rel_getElem? (all r) i
    rw [known] at pair
    generalize sh.fields[i]? = f at pair ⊢
    cases pair with
    | some matching => exact ⟨_, rfl, matching.idle value default⟩

/-- A record about which nothing is known has no fields that can be filled in. -/
theorem fits_plain (commute : sh.fields.Pairwise Slot.Commute)
    (each : ∀ f ∈ sh.fields, Respects layout layout.plain f.decode) :
    Fits layout layout.plain sh := by
  constructor
  case commute => exact commute
  case member =>
    intro r name f found
    rw [Layout.formOfMember, layout.field?_plain]
    exact each f (List.mem_of_find?_eq_some found)
  case item =>
    intro r i f found
    rw [Layout.formOfItem, layout.fields_plain, List.getElem?_nil, layout.item_plain]
    exact each f (List.mem_of_getElem? found)
  case fill =>
    intro r name field value known
    rw [layout.field?_plain] at known
    cases known
  case extend =>
    intro r i field value known
    rw [layout.fields_plain] at known
    cases known

theorem respects_plain (commute : sh.fields.Pairwise Slot.Commute)
    (each : ∀ f ∈ sh.fields, Respects layout layout.plain f.decode) :
    Respects layout layout.plain sh.decode := respects (fits_plain commute each)

theorem Filled.mono {gs : List (Slot σ)} (filled : Filled source stop fs rs store)
    (fields : List.Forall₂ Slot.Extends gs fs) : Filled source stop gs rs store := by
  induction filled generalizing gs with
  | full closed =>
      cases fields
      exact .full closed
  | short ended free _ ih =>
      cases fields with
      | cons wider rest => exact .short ended (wider.neededInList ▸ free) (ih rest)
  | take read _ ih =>
      cases fields with
      | cons wider rest => exact .take (wider.decode _ _ _ read) (ih rest)

section wider

variable {other : Shape σ} (fields : List.Forall₂ Slot.Extends sh.fields other.fields)
include fields

theorem Taken.mono {ms : List (Key × Reading)} {names : List String} {store : σ → σ}
    (taken : Taken other source ms names store) : Taken sh source ms names store := by
  induction taken with
  | nil => exact .nil
  | @skip name _ _ _ _ unknown passed _ ih =>
      have pair := rel_find? fields (fun _ _ wider => wider.name) name
      rw [unknown] at pair
      generalize own : sh.fields.find? (·.name == name) = f at pair
      cases pair with
      | none => exact .skip own passed ih
  | @take name _ _ _ _ _ g found fresh read _ ih =>
      have pair := rel_find? fields (fun _ _ wider => wider.name) name
      rw [found] at pair
      generalize own : sh.fields.find? (·.name == name) = f at pair
      cases pair with
      | some wider => exact .take own fresh (wider.decode _ _ _ read) ih

theorem extends_decode (blank : sh.blank = other.blank) : sh.decode.Extends other.decode := by
  intro source r s read
  have collection := depth_of_decode read
  cases r with
  | object ms stop =>
      obtain ⟨inner, names, store, enter, taken, ended, complete, rfl⟩ := decode_object.mp read
      refine decode_object.mpr ⟨inner, names, store, enter, taken.mono fields, ended, ?_, ?_⟩
      · intro f known needed
        obtain ⟨i, found⟩ := List.getElem?_of_mem known
        have pair := rel_getElem? fields i
        rw [found] at pair
        generalize there : other.fields[i]? = g at pair
        cases pair with
        | some wider =>
            rw [wider.name]
            exact complete _ (List.mem_of_getElem? there) (wider.needed ▸ needed)
      · rw [blank]
  | list items stop =>
      obtain ⟨inner, store, enter, filled, rfl⟩ := decode_list.mp read
      exact decode_list.mpr ⟨inner, store, enter, filled.mono fields, by rw [blank]⟩
  | _ => cases collection

end wider

end Shape

end TemplateWiring.Json
