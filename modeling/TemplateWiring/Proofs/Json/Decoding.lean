import TemplateWiring.Proofs.Json.Shape
import TemplateWiring.Proofs.Json.Text

namespace TemplateWiring.Json

def depth (j : Json) : Nat := (Reading.ofJson j).depth

theorem depth_lt_arr {v : Json} {vs : List Json} (member : v ∈ vs) : v.depth < (arr vs).depth := by
  apply Nat.lt_succ_of_le
  induction member with
  | head => exact Nat.le_max_left _ _
  | tail _ _ ih => exact Nat.le_trans ih (Nat.le_max_right _ _)

theorem depth_lt_obj {m : String × Json} {ms : List (String × Json)} (member : m ∈ ms) :
    m.2.depth < (obj ms).depth := by
  apply Nat.lt_succ_of_le
  induction member with
  | head => exact Nat.le_max_left _ _
  | tail _ _ ih => exact Nat.le_trans ih (Nat.le_max_right _ _)

namespace Source

variable {source : Source}

theorem Admits.enter_arr {vs : List Json} (admits : source.Admits (arr vs).depth) :
    ∃ inner, source.enter = .ok inner ∧ ∀ v ∈ vs, inner.Admits v.depth := by
  obtain ⟨inner, enter, room⟩ := Admits.enter admits
  exact ⟨inner, enter, fun v member => room.of_le (Nat.le_of_lt_succ (depth_lt_arr member))⟩

theorem Admits.enter_obj {ms : List (String × Json)} (admits : source.Admits (obj ms).depth) :
    ∃ inner, source.enter = .ok inner ∧ ∀ m ∈ ms, inner.Admits m.2.depth := by
  obtain ⟨inner, enter, room⟩ := Admits.enter admits
  exact ⟨inner, enter, fun m member => room.of_le (Nat.le_of_lt_succ (depth_lt_obj member))⟩

theorem readWhole_ofJson (j : Json) (admits : source.Admits j.depth) :
    source.readWhole (.ofJson j) = .ok () :=
  readWhole_sound (Reading.sound_ofJson true j) admits

end Source

namespace Decoder

variable {α β : Type} {d : Decoder α} {j : Json} {a : α}

/-- The decoder gives `a` back, for which `j` was written. -/
structure Reads (d : Decoder α) (j : Json) (a : α) : Prop where
  range : InRange j
  read : ∀ source : Source, source.Admits j.depth → d source (.ofJson j) = .ok a

theorem reads_string (s : String) : Reads string (.str s) s := ⟨.str s, fun _ _ => rfl⟩

theorem reads_boolean (b : Bool) : Reads boolean (.bool b) b := ⟨.bool b, fun _ _ => rfl⟩

theorem reads_natural {limit n : Nat} (below : n < limit) (fits : n < Numeral.limit)
    (title : String) : Reads (natural limit title) (.int n) n := by
  constructor
  · exact .int ⟨by omega, Int.ofNat_lt.mpr fits⟩
  · intro source _
    have inside : 0 ≤ (n : Int) ∧ (n : Int) < limit :=
      ⟨Int.natCast_nonneg n, Int.ofNat_lt.mpr below⟩
    simp only [natural, Reading.ofJson, if_pos inside, Int.toNat_natCast]

theorem Reads.map (reads : Reads d j a) (f : α → β) :
    Reads (fun source r => (d source r).map f) j (f a) := by
  refine ⟨reads.range, fun source admits => ?_⟩
  rw [reads.read source admits]
  rfl

theorem reads_word32 (n : UInt32) : Reads word32 (.int n.toNat) n := by
  have small : n.toNat < 4294967296 := n.toNat_lt
  have reads := (reads_natural small (by rw [Numeral.limit]; omega) "u32").map Nat.toUInt32
  have same : n.toNat.toUInt32 = n := UInt32.ofNat_toNat
  rwa [same] at reads

theorem reads_size {n : Nat} (fits : n < Numeral.limit) : Reads size (.int n) n :=
  reads_natural fits fits "usize"

theorem reads_none : Reads (nullable d) .null none := ⟨.null, fun _ _ => rfl⟩

theorem reads_some (reads : Reads d j a) (present : j ≠ .null) :
    Reads (nullable d) j (some a) := by
  refine ⟨reads.range, fun source admits => ?_⟩
  have read := (reads.map some).read source admits
  cases j with
  | null => exact absurd rfl present
  | _ => exact read

theorem listItems_map {toJson : α → Json} {as : List α} {source : Source}
    (each : ∀ a ∈ as, d source (.ofJson (toJson a)) = .ok a) :
    listItems d source (Reading.ofItems (as.map toJson)) = .ok as := by
  induction as with
  | nil => rfl
  | cons a as ih =>
      rw [List.map_cons, Reading.ofItems, listItems, each a List.mem_cons_self,
        ih fun b member => each b (List.mem_cons_of_mem a member)]
      rfl

theorem reads_list {toJson : α → Json} {as : List α} (each : ∀ a ∈ as, Reads d (toJson a) a) :
    Reads (list d) (.arr (as.map toJson)) as := by
  constructor
  · apply InRange.arr
    intro v member
    obtain ⟨a, listed, rfl⟩ := List.mem_map.mp member
    exact (each a listed).range
  · intro source admits
    obtain ⟨inner, enter, room⟩ := admits.enter_arr
    have items := listItems_map fun a listed =>
      (each a listed).read inner (room _ (List.mem_map_of_mem listed))
    simp only [Reading.ofJson, list, enter, items, bind, Except.bind]
    rfl

theorem Reads.decodeText (reads : Reads d j a) (shallow : j.depth ≤ maxDepth) :
    decodeText d (render j) = .ok a := by
  simp only [Json.decodeText, Reading.ofText_render reads.range]
  rw [reads.read (.reading maxDepth) shallow]
  rfl

end Decoder

end TemplateWiring.Json
