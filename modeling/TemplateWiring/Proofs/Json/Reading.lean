import Mathlib.Data.List.Forall2
import TemplateWiring.Json.Decode

namespace TemplateWiring.Json

theorem ok_of_bind {ε α β : Type} {x : Except ε α} {f : α → Except ε β} {b : β}
    (ran : (x >>= f) = .ok b) : ∃ a, x = .ok a ∧ f a = .ok b := by
  cases x with
  | error e => cases ran
  | ok a => exact ⟨a, rfl, ran⟩

theorem ok_of_map {ε α β : Type} {x : Except ε α} {f : α → β} {b : β}
    (ran : x.map f = .ok b) : ∃ a, x = .ok a ∧ f a = b := by
  cases x with
  | error e => cases ran
  | ok a => exact ⟨a, rfl, Except.ok.inj ran⟩

theorem failing_ok {problem : Option Problem} (fine : failing problem = .ok ()) :
    problem = none := by
  cases problem with
  | none => rfl
  | some p => cases fine

namespace Reading

def parts : Reading → List Reading
  | list items _ => items
  | object members _ => members.map (·.2)
  | _ => []

mutual

def collections : Reading → Nat
  | list items _ => collectionsOfItems items + 1
  | object members _ => collectionsOfMembers members + 1
  | _ => 0

def collectionsOfItems : List Reading → Nat
  | [] => 0
  | r :: rs => collections r + collectionsOfItems rs

def collectionsOfMembers : List (Key × Reading) → Nat
  | [] => 0
  | (_, r) :: ms => collections r + collectionsOfMembers ms

end

theorem depthOfMembers_eq (ms : List (Key × Reading)) :
    depthOfMembers ms = depthOfItems (ms.map (·.2)) := by
  induction ms with
  | nil => rfl
  | cons m ms ih => rw [depthOfMembers, ih, List.map_cons, depthOfItems]

theorem collectionsOfMembers_eq (ms : List (Key × Reading)) :
    collectionsOfMembers ms = collectionsOfItems (ms.map (·.2)) := by
  induction ms with
  | nil => rfl
  | cons m ms ih => rw [collectionsOfMembers, ih, List.map_cons, collectionsOfItems]

theorem depthOfItems_le {rs : List Reading} {n : Nat} :
    depthOfItems rs ≤ n ↔ ∀ r ∈ rs, r.depth ≤ n := by
  induction rs with
  | nil => simp [depthOfItems]
  | cons r rs ih => rw [depthOfItems, Nat.max_le, ih, List.forall_mem_cons]

theorem collections_le_items {rs : List Reading} {r : Reading} (member : r ∈ rs) :
    r.collections ≤ collectionsOfItems rs := by
  induction member with
  | head => exact Nat.le_add_right _ _
  | tail _ _ ih => exact Nat.le_trans ih (Nat.le_add_left _ _)

theorem depth_part {r x : Reading} (member : x ∈ r.parts) : x.depth < r.depth := by
  cases r with
  | list items stop => exact Nat.lt_succ_of_le (depthOfItems_le.mp (Nat.le_refl _) x member)
  | object ms stop =>
      rw [depth, depthOfMembers_eq]
      exact Nat.lt_succ_of_le (depthOfItems_le.mp (Nat.le_refl _) x member)
  | _ => cases member

theorem depth_le_parts {r : Reading} {n : Nat} (below : ∀ x ∈ r.parts, x.depth ≤ n) :
    r.depth ≤ n + 1 := by
  cases r with
  | list items stop => exact Nat.succ_le_succ (depthOfItems_le.mpr below)
  | object ms stop =>
      rw [depth, depthOfMembers_eq]
      exact Nat.succ_le_succ (depthOfItems_le.mpr below)
  | _ => exact Nat.zero_le _

theorem collections_part {r x : Reading} (member : x ∈ r.parts) :
    x.collections < r.collections := by
  cases r with
  | list items stop => exact Nat.lt_succ_of_le (collections_le_items member)
  | object ms stop =>
      rw [collections, collectionsOfMembers_eq]
      exact Nat.lt_succ_of_le (collections_le_items member)
  | _ => cases member

theorem collections_pos {r : Reading} (collection : 1 ≤ r.depth) : 1 ≤ r.collections := by
  cases r with
  | list | object => exact Nat.succ_le_succ (Nat.zero_le _)
  | _ => cases collection

/-- A reader finds no fault with the value; one who passes over it is less strict. -/
inductive Sound (strict : Bool) : Reading → Prop
  | null : Sound strict .null
  | bool (value : Bool) : Sound strict (.bool value)
  | int (value : Int) : Sound strict (.int value)
  | real (value : Binary64) : Sound strict (.real value)
  | str (value : String) : Sound strict (.str value)
  | list {items : List Reading} (each : ∀ r ∈ items, Sound strict r) :
      Sound strict (.list items none)
  | object {ms : List (Key × Reading)} (named : strict → ∀ m ∈ ms, ∃ name, m.1 = .name name)
      (each : ∀ m ∈ ms, Sound strict m.2) : Sound strict (.object ms none)
  | unreadable (problem : Problem) (passed : strict = false) : Sound strict (.unreadable problem)

/-- What holds of a value when it holds of its parts holds of every value. -/
theorem induction {P : Reading → Prop} (step : ∀ r, (∀ x ∈ r.parts, P x) → P r) (r : Reading) :
    P r := by
  generalize deep : r.depth = n
  induction n using Nat.strongRecOn generalizing r with
  | ind n ih => exact step r fun x member => ih x.depth (deep ▸ depth_part member) x rfl

theorem depth_le_depth {r r' : Reading} (collection : 0 < r'.depth)
    (each : ∀ x ∈ r.parts, ∃ x' ∈ r'.parts, x.depth ≤ x'.depth) : r.depth ≤ r'.depth := by
  have below : ∀ x ∈ r.parts, x.depth ≤ r'.depth - 1 := by
    intro x member
    obtain ⟨x', member', less⟩ := each x member
    have deeper := depth_part member'
    omega
  have all := depth_le_parts below
  omega

theorem itemsProblem?_eq_none {rs : List Reading} {room : Nat} :
    itemsProblem? room rs = none ↔ ∀ r ∈ rs, r.problem? room = none := by
  induction rs with
  | nil => simp [itemsProblem?]
  | cons r rs ih => rw [itemsProblem?, Option.or_eq_none_iff, ih, List.forall_mem_cons]

theorem membersProblem?_eq_none {ms : List (Key × Reading)} {room : Nat} :
    membersProblem? room ms = none ↔
      (∀ m ∈ ms, ∃ name, m.1 = .name name) ∧ ∀ m ∈ ms, m.2.problem? room = none := by
  induction ms with
  | nil => simp [membersProblem?]
  | cons m ms ih =>
      obtain ⟨key, r⟩ := m
      cases key with
      | name name =>
          rw [membersProblem?, Option.or_eq_none_iff, ih, List.forall_mem_cons,
            List.forall_mem_cons]
          simp only [Key.name.injEq, exists_eq', true_and]
          exact and_left_comm
      | unreadable p => simp [membersProblem?]

theorem skipItems?_eq_none {rs : List Reading} :
    skipItems? rs = none ↔ ∀ r ∈ rs, r.skipProblem? = none := by
  induction rs with
  | nil => simp [skipItems?]
  | cons r rs ih => rw [skipItems?, Option.or_eq_none_iff, ih, List.forall_mem_cons]

theorem skipMembers?_eq_none {ms : List (Key × Reading)} :
    skipMembers? ms = none ↔ ∀ m ∈ ms, m.2.skipProblem? = none := by
  induction ms with
  | nil => simp [skipMembers?]
  | cons m ms ih => rw [skipMembers?, Option.or_eq_none_iff, ih, List.forall_mem_cons]

theorem sound_list {strict : Bool} {items : List Reading} {stop : Option Stop} :
    Sound strict (.list items stop) ↔ stop = none ∧ ∀ r ∈ items, Sound strict r := by
  constructor
  · intro sound
    cases sound with
    | list each => exact ⟨rfl, each⟩
  · rintro ⟨rfl, each⟩
    exact .list each

theorem sound_object {strict : Bool} {ms : List (Key × Reading)} {stop : Option Stop} :
    Sound strict (.object ms stop) ↔ stop = none ∧
      (strict → ∀ m ∈ ms, ∃ name, m.1 = .name name) ∧ ∀ m ∈ ms, Sound strict m.2 := by
  constructor
  · intro sound
    cases sound with
    | object named each => exact ⟨rfl, named, each⟩
  · rintro ⟨rfl, named, each⟩
    exact .object named each

theorem problem?_eq_none {r : Reading} {room : Nat} :
    r.problem? room = none ↔ r.Sound true ∧ r.depth ≤ room := by
  induction r using Reading.induction generalizing room with
  | step r ih =>
      cases r with
      | list items stop =>
          cases room with
          | zero => simp [problem?, depth]
          | succ room =>
              have each : (∀ x ∈ items, x.problem? room = none) ↔
                  ∀ x ∈ items, x.Sound true ∧ x.depth ≤ room :=
                forall₂_congr fun x member => ih x member
              rw [problem?, Option.or_eq_none_iff, Option.map_eq_none_iff, itemsProblem?_eq_none,
                each, sound_list, depth, Nat.succ_le_succ_iff, depthOfItems_le, forall₂_and]
              exact and_right_comm.trans (and_congr_left' and_comm)
      | object ms stop =>
          cases room with
          | zero => simp [problem?, depth]
          | succ room =>
              have each : (∀ m ∈ ms, m.2.problem? room = none) ↔
                  ∀ m ∈ ms, m.2.Sound true ∧ m.2.depth ≤ room :=
                forall₂_congr fun m member => ih m.2 (List.mem_map_of_mem member)
              rw [problem?, Option.or_eq_none_iff, Option.map_eq_none_iff,
                membersProblem?_eq_none, each, sound_object, depth, Nat.succ_le_succ_iff,
                depthOfMembers_eq, depthOfItems_le, List.forall_mem_map, forall₂_and]
              tauto
      | unreadable p =>
          constructor
          · exact fun sound => absurd sound (Option.some_ne_none _)
          · rintro ⟨sound, -⟩
            cases sound with
            | unreadable _ passed => cases passed
      | broken p q =>
          constructor
          · exact fun sound => absurd sound (Option.some_ne_none _)
          · rintro ⟨sound, -⟩
            cases sound
      | null => exact iff_of_true rfl ⟨.null, Nat.zero_le _⟩
      | bool b => exact iff_of_true rfl ⟨.bool b, Nat.zero_le _⟩
      | int n => exact iff_of_true rfl ⟨.int n, Nat.zero_le _⟩
      | real x => exact iff_of_true rfl ⟨.real x, Nat.zero_le _⟩
      | str s => exact iff_of_true rfl ⟨.str s, Nat.zero_le _⟩

theorem skipProblem?_eq_none {r : Reading} : r.skipProblem? = none ↔ r.Sound false := by
  induction r using Reading.induction with
  | step r ih =>
      cases r with
      | list items stop =>
          have each : (∀ x ∈ items, x.skipProblem? = none) ↔ ∀ x ∈ items, x.Sound false :=
            forall₂_congr fun x member => ih x member
          rw [skipProblem?, Option.or_eq_none_iff, Option.map_eq_none_iff, skipItems?_eq_none,
            each, sound_list, and_comm]
      | object ms stop =>
          have each : (∀ m ∈ ms, m.2.skipProblem? = none) ↔ ∀ m ∈ ms, m.2.Sound false :=
            forall₂_congr fun m member => ih m.2 (List.mem_map_of_mem member)
          rw [skipProblem?, Option.or_eq_none_iff, Option.map_eq_none_iff, skipMembers?_eq_none,
            each, sound_object]
          simp [and_comm]
      | broken p q =>
          constructor
          · exact fun sound => absurd sound (Option.some_ne_none _)
          · intro sound
            cases sound
      | unreadable p => exact iff_of_true rfl (.unreadable p rfl)
      | null => exact iff_of_true rfl .null
      | bool b => exact iff_of_true rfl (.bool b)
      | int n => exact iff_of_true rfl (.int n)
      | real x => exact iff_of_true rfl (.real x)
      | str s => exact iff_of_true rfl (.str s)

theorem named_ofMembers (ms : List (String × Json)) :
    ∀ m ∈ ofMembers ms, ∃ name, m.1 = .name name := by
  induction ms with
  | nil => exact List.forall_mem_nil _
  | cons m ms ih => exact List.forall_mem_cons.mpr ⟨⟨m.1, rfl⟩, ih⟩

mutual

theorem sound_ofJson (strict : Bool) : ∀ j : Json, Sound strict (ofJson j)
  | .null => .null
  | .bool b => .bool b
  | .int n => .int n
  | .str s => .str s
  | .arr vs => .list (sound_ofItems strict vs)
  | .obj ms => .object (fun _ => named_ofMembers ms) (sound_ofMembers strict ms)

theorem sound_ofItems (strict : Bool) : ∀ vs : List Json, ∀ r ∈ ofItems vs, Sound strict r
  | [] => List.forall_mem_nil _
  | v :: vs => List.forall_mem_cons.mpr ⟨sound_ofJson strict v, sound_ofItems strict vs⟩

theorem sound_ofMembers (strict : Bool) : ∀ ms : List (String × Json),
    ∀ m ∈ ofMembers ms, Sound strict m.2
  | [] => List.forall_mem_nil _
  | (_, v) :: ms => List.forall_mem_cons.mpr ⟨sound_ofJson strict v, sound_ofMembers strict ms⟩

end

end Reading

namespace Source

def Admits : Source → Nat → Prop
  | reading room, depth => depth ≤ room
  | held, _ => True

variable {source : Source}

theorem Admits.of_le {n m : Nat} (admits : source.Admits n) (less : m ≤ n) : source.Admits m := by
  cases source with
  | reading room => exact Nat.le_trans less admits
  | held => trivial

theorem Admits.enter {n : Nat} (admits : source.Admits (n + 1)) :
    ∃ inner, source.enter = .ok inner ∧ inner.Admits n := by
  cases source with
  | reading room =>
      cases room with
      | zero => cases admits
      | succ room => exact ⟨.reading room, rfl, Nat.le_of_succ_le_succ admits⟩
  | held => exact ⟨.held, rfl, trivial⟩

theorem room_of_enter {room : Nat} {inner : Source} (entered : (reading room).enter = .ok inner) :
    ∃ n, room = n + 1 ∧ inner = reading n := by
  cases room with
  | zero => cases entered
  | succ n =>
      cases entered
      exact ⟨n, rfl, rfl⟩

theorem Admits.part {inner : Source} {r x : Reading} (admits : source.Admits r.depth)
    (enter : source.enter = .ok inner) (member : x ∈ r.parts) :
    inner.Admits x.depth := by
  cases source with
  | held =>
      cases enter
      trivial
  | reading room =>
      obtain ⟨n, rfl, rfl⟩ := room_of_enter enter
      exact Nat.le_of_lt_succ (Nat.lt_of_lt_of_le (Reading.depth_part member) admits)

theorem readWhole_sound {r : Reading} (sound : r.Sound true)
    (admits : source.Admits r.depth) : source.readWhole r = .ok () := by
  cases source with
  | held => rfl
  | reading room => rw [readWhole, Reading.problem?_eq_none.mpr ⟨sound, admits⟩, failing]

theorem depth_of_readWhole {room : Nat} {r : Reading}
    (read : (reading room).readWhole r = .ok ()) : r.depth ≤ room :=
  (Reading.problem?_eq_none.mp (failing_ok read)).2

end Source

end TemplateWiring.Json
