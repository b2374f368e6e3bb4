import Mathlib.Data.List.Nodup
import TemplateWiring.Proofs.Json.Decoding
import TemplateWiring.Proofs.Json.Tagged

namespace TemplateWiring.Json

variable {σ : Type}

open Decoder (Reads)

/-- Fields that take some members one after the other, and what they make of a value. -/
inductive Stores : List (Slot σ) → List (String × Json) → σ → σ → Prop where
  | nil (s : σ) : Stores [] [] s s
  | cons {f : Slot σ} {fs : List (Slot σ)} {j : Json} {ms : List (String × Json)} {s s' : σ}
      {store : σ → σ} (first : Reads f.decode j store) (rest : Stores fs ms (store s) s') :
      Stores (f :: fs) ((f.name, j) :: ms) s s'

namespace Stores

variable {α : Type} {fs : List (Slot σ)} {ms : List (String × Json)} {s s' : σ} {j : Json}
  {d : Decoder α} {a : α} {name : String}

theorem required {store : α → σ → σ} (first : Reads d j a) (rest : Stores fs ms (store a s) s') :
    Stores (Slot.required name d store :: fs) ((name, j) :: ms) s s' :=
  .cons (first.map store) rest

theorem defaulted {store : α → σ → σ} (first : Reads d j a) (rest : Stores fs ms (store a s) s') :
    Stores (Slot.defaulted name d store :: fs) ((name, j) :: ms) s s' :=
  .cons (first.map store) rest

theorem nullable {store : Option α → σ → σ} {a : Option α} (first : Reads (Decoder.nullable d) j a)
    (rest : Stores fs ms (store a s) s') :
    Stores (Slot.nullable name d store :: fs) ((name, j) :: ms) s s' :=
  .cons (first.map store) rest

theorem range (stores : Stores fs ms s s') : ∀ m ∈ ms, InRange m.2 := by
  induction stores with
  | nil => exact fun _ member => nomatch member
  | cons first _ ih => exact List.forall_mem_cons.mpr ⟨first.range, ih⟩

end Stores

namespace Shape

variable {sh : Shape σ} {fs : List (Slot σ)} {ms : List (String × Json)} {s s' : σ}

theorem find?_name (distinct : (fs.map (·.name)).Nodup) {f : Slot σ} (member : f ∈ fs) :
    fs.find? (·.name == f.name) = some f := by
  induction member with
  | head => exact List.find?_cons_of_pos (beq_self_eq_true f.name)
  | @tail g fs member ih =>
      obtain ⟨new, distinct⟩ := List.nodup_cons.mp distinct
      have other : g.name ≠ f.name := by
        intro same
        exact new (List.mem_map.mpr ⟨f, member, same.symm⟩)
      rw [List.find?_cons_of_neg (by simpa using other)]
      exact ih distinct

theorem taken_ofMembers (distinct : (sh.fields.map (·.name)).Nodup) {source : Source}
    (stores : Stores fs ms s s') (admits : ∀ m ∈ ms, source.Admits m.2.depth)
    (known : ∀ f ∈ fs, f ∈ sh.fields) (fresh : (fs.map (·.name)).Nodup) :
    ∃ store, Taken sh source (Reading.ofMembers ms) (fs.map (·.name)) store ∧ s' = store s := by
  induction stores with
  | nil => exact ⟨id, .nil, rfl⟩
  | @cons f fs j ms s s' own first rest ih =>
      obtain ⟨among, later⟩ := List.forall_mem_cons.mp known
      obtain ⟨room, rooms⟩ := List.forall_mem_cons.mp admits
      obtain ⟨new, fresh⟩ := List.nodup_cons.mp fresh
      obtain ⟨store, taken, made⟩ := ih rooms later fresh
      exact ⟨store ∘ own, .take (find?_name distinct among) new (first.read source room) taken,
        made⟩

theorem reads (distinct : (sh.fields.map (·.name)).Nodup)
    (stores : Stores sh.fields ms sh.blank s) : Reads sh.decode (.obj ms) s := by
  refine ⟨.obj stores.range, fun source admits => ?_⟩
  obtain ⟨inner, enter, room⟩ := admits.enter_obj
  obtain ⟨store, taken, made⟩ := taken_ofMembers distinct stores room (fun _ => id) distinct
  exact decode_object.mpr ⟨inner, _, store, enter, taken, rfl,
    fun f known _ => List.mem_map_of_mem known, made⟩

end Shape

theorem chooseTag_name {α : Type} {name : α → String} {as : List α}
    (distinct : (as.map name).Nodup) {a : α} (member : a ∈ as) (source : Source) :
    ∃ i, chooseTag (as.map name) source (.str (name a)) = .ok i ∧ as[i]? = some a := by
  obtain ⟨i, inside, rfl⟩ := List.getElem_of_mem member
  refine ⟨i, ?_, List.getElem?_eq_getElem inside⟩
  have found : (as.map name).findIdx? (· == name as[i]) = some i := by
    rw [List.findIdx?_eq_some_iff_getElem]
    refine ⟨by simpa using inside, by simp, fun k before same => ?_⟩
    have earlier : k < as.length := Nat.lt_trans before inside
    have equal : (as.map name)[k]? = (as.map name)[i]? := by
      simpa [List.getElem?_map, earlier, inside] using same
    have alike := (List.getElem?_inj (by simpa using earlier) distinct).mp equal
    exact absurd alike (Nat.ne_of_lt before)
  simp only [chooseTag, found]

namespace Tagged

variable {t : Tagged σ} {v : Variant σ} {ms : List (String × Json)}

theorem choose_name (distinct : (Variant.names t.variants).Nodup) (member : v ∈ t.variants)
    (source : Source) : t.choose source (.str v.name) = .ok v := by
  obtain ⟨i, chosen, found⟩ := chooseTag_name distinct member source
  simp only [choose, Variant.names, chosen, found, bind, Except.bind]
  rfl

theorem split_ofMembers {source : Source} (admits : ∀ m ∈ ms, source.Admits m.2.depth)
    (other : ∀ m ∈ ms, m.1 ≠ t.tag) :
    Split t source (Reading.ofMembers ms) none (Reading.ofMembers ms) := by
  induction ms with
  | nil => exact .nil
  | cons m ms ih =>
      obtain ⟨room, admits⟩ := List.forall_mem_cons.mp admits
      obtain ⟨apart, other⟩ := List.forall_mem_cons.mp other
      exact .other apart (Source.readWhole_ofJson m.2 room) (ih admits other)

theorem reads (distinct : (Variant.names t.variants).Nodup) (member : v ∈ t.variants)
    (other : ∀ m ∈ ms, m.1 ≠ t.tag) {a : σ} (body : Reads v.decode (.obj ms) a) :
    Reads t.decode (.obj ((t.tag, .str v.name) :: ms)) a := by
  have range : ∀ m ∈ ms, InRange m.2 := by
    cases body.range with
    | obj inner => exact inner
  refine ⟨.obj (List.forall_mem_cons.mpr ⟨.str v.name, range⟩), fun source admits => ?_⟩
  obtain ⟨inner, enter, room⟩ := admits.enter_obj
  have split := split_ofMembers (List.forall_mem_cons.mp room).2 other
  exact decode_object.mpr ⟨inner, v, _, enter, .tag (choose_name distinct member inner) split, rfl,
    body.read .held trivial⟩

end Tagged

namespace Variant

theorem reads_constant {ms : List (String × Json)} (range : ∀ m ∈ ms, InRange m.2) (name : String)
    (value : σ) : Reads (constant name value).decode (.obj ms) value :=
  ⟨.obj range, fun _ _ => rfl⟩

end Variant

namespace Adjacent

variable {a : Adjacent σ} {c : Case σ} {v : σ}

theorem choose_name (distinct : (a.cases.map (·.name)).Nodup) (member : c ∈ a.cases)
    (source : Source) : a.choose source (.str c.name) = .ok c := by
  obtain ⟨i, chosen, found⟩ := chooseTag_name distinct member source
  simp only [choose, chosen, found, bind, Except.bind]
  rfl

theorem reads_bare (distinct : (a.cases.map (·.name)).Nodup) (member : c ∈ a.cases)
    (bare : c.bare = some v) : Reads a.decode (.obj [(a.tag, .str c.name)]) v := by
  refine ⟨.obj (List.forall_mem_singleton.mpr (.str c.name)), fun source admits => ?_⟩
  obtain ⟨inner, enter, -⟩ := admits.enter_obj
  exact decode_object.mpr ⟨inner, _, enter, .tag .nil,
    .bare (choose_name distinct member inner) bare, rfl⟩

theorem reads_content (distinct : (a.cases.map (·.name)).Nodup) (member : c ∈ a.cases)
    (apart : a.content ≠ a.tag) {j : Json} (body : Reads c.decode j v) :
    Reads a.decode (.obj [(a.tag, .str c.name), (a.content, j)]) v := by
  refine ⟨.obj (List.forall_mem_cons.mpr ⟨.str c.name, List.forall_mem_singleton.mpr body.range⟩),
    fun source admits => ?_⟩
  obtain ⟨inner, enter, room⟩ := admits.enter_obj
  have content := body.read inner (room (a.content, j) (by simp))
  exact decode_object.mpr ⟨inner, _, enter, .tag (.content apart .nil),
    .tagged (choose_name distinct member inner) content, rfl⟩

end Adjacent

end TemplateWiring.Json
