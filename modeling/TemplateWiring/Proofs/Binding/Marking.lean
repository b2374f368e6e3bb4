import TemplateWiring.Binding
import TemplateWiring.Proofs.Template.Attribute
import TemplateWiring.Proofs.Text.Parts
import TemplateWiring.Proofs.Tree.Access

namespace TemplateWiring.Binding

/-- A node that is given a key: it says in no way of its own how it is to be found, and it is a
custom tag or not the only root. -/
def receives (several : Bool) (n : Node) : Bool :=
  !(Attr.has n.attrs "key" || Attr.has n.attrs "ref") && (n.kind == .custom || several)

def receivers (several : Bool) (t : Tree) (ids : List Nat) : List Nat :=
  ids.filter fun id => receives several (t.node id)

def marked (o : Options) (n : Node) : Node :=
  { n with attrs := Attr.set n.attrs o.boundRootAttribute .bare }

def keyed (o : Options) (k : Nat) (n : Node) : Node :=
  { n with attrs := Attr.set n.attrs "key" (.text (keyText o k)) }

variable (o : Options) (several : Bool) (t : Tree) (next : Nat) (ids : List Nat)

/-- Marking writes attributes of the nodes it is given, one after the other, and does nothing
else. -/
theorem markAll_induction (P : Tree → Prop) (start : P t)
    (write : ∀ u id name value, id ∈ ids → P u → P (u.setAttr id name value)) :
    P (markAll o several t next ids).1 := by
  induction ids generalizing t next with
  | nil => exact start
  | cons id rest ih =>
      have later (u : Tree) (k : Nat) (holds : P u) : P (markAll o several u k rest).1 :=
        ih u k holds fun v other name value member =>
          write v other name value (List.mem_cons_of_mem _ member)
      have first := write t id o.boundRootAttribute .bare List.mem_cons_self start
      simp only [markAll]
      split
      · exact later _ _ (write _ id "key" _ List.mem_cons_self first)
      · exact later _ _ first

theorem view_markAll {α : Type} (view : Node → α) (id : Nat)
    (blind : ∀ n attrs, view { n with attrs := attrs } = view n) :
    view ((markAll o several t next ids).1.node id) = view (t.node id) := by
  apply markAll_induction o several t next ids (fun u => view (u.node id) = view (t.node id)) rfl
  intro u other name value _ kept
  rw [u.view_setAttr other id view name value blind, kept]

theorem node_markAll_ne {id : Nat} (stranger : id ∉ ids) :
    (markAll o several t next ids).1.node id = t.node id := by
  apply markAll_induction o several t next ids (fun u => u.node id = t.node id) rfl
  intro u other name value member kept
  rw [u.node_setAttr_ne other id name value (ne_of_mem_of_not_mem member stranger), kept]

def Unrelated (o : Options) : Prop :=
  o.boundRootAttribute ≠ "key" ∧ o.boundRootAttribute ≠ "ref"

theorem receives_marked {o : Options} (free : Unrelated o) (several : Bool) (n : Node) :
    receives several (marked o n) = receives several n := by
  simp only [receives, marked, Attr.has_set_ne _ free.1, Attr.has_set_ne _ free.2]

theorem markAll_step {id : Nat} {t : Tree} (inside : id < t.size) :
    markAll o several t next (id :: ids) =
      if receives several (marked o (t.node id)) then
        let u := (t.update id (marked o)).update id (keyed o next)
        let w := markAll o several u (next + 1) ids
        (w.1, keyText o next :: w.2)
      else markAll o several (t.update id (marked o)) next ids := by
  have written : (t.setAttr id o.boundRootAttribute .bare).node id = marked o (t.node id) :=
    t.node_setAttr_self id _ _ inside
  have asked : needsKey (t.setAttr id o.boundRootAttribute .bare) several id =
      receives several (marked o (t.node id)) := by
    change receives several ((t.setAttr id o.boundRootAttribute .bare).node id) = _
    rw [written]
  rw [markAll, asked]
  rfl

theorem markAll_cons {o : Options} (free : Unrelated o) {id : Nat} {t : Tree}
    (inside : id < t.size) :
    markAll o several t next (id :: ids) =
      if receives several (t.node id) then
        let u := (t.update id (marked o)).update id (keyed o next)
        let w := markAll o several u (next + 1) ids
        (w.1, keyText o next :: w.2)
      else markAll o several (t.update id (marked o)) next ids := by
  rw [markAll_step o several next ids inside, receives_marked free]

theorem receivers_congr {several : Bool} {t u : Tree} {ids : List Nat}
    (same : ∀ id ∈ ids, u.node id = t.node id) :
    receivers several u ids = receivers several t ids := by
  apply List.filter_congr
  intro id member
  rw [same id member]

/-- What marking the nodes of a list has come to, with keys numbered from `next` on. -/
structure Marking (o : Options) (several : Bool) (t : Tree) (next : Nat) (ids : List Nat)
    (w : Tree × List String) : Prop where
  unkeyed : ∀ id ∈ ids, receives several (t.node id) = false →
    w.1.node id = marked o (t.node id)
  keyed : ∀ i id, (receivers several t ids)[i]? = some id →
    w.1.node id = keyed o (next + i) (marked o (t.node id))
  keys : w.2 = (List.range' next (receivers several t ids).length).map (keyText o)

theorem Marking.congr {o : Options} {several : Bool} {t u : Tree} {next : Nat} {ids : List Nat}
    {w : Tree × List String} (marking : Marking o several u next ids w)
    (same : ∀ id ∈ ids, u.node id = t.node id) : Marking o several t next ids w := by
  obtain ⟨unkeyed, keyed, keys⟩ := marking
  have asked : receivers several u ids = receivers several t ids := receivers_congr same
  constructor
  · intro id member silent
    rw [← same id member] at silent ⊢
    exact unkeyed id member silent
  · intro i id found
    have member : id ∈ ids := (List.mem_filter.mp (List.mem_of_getElem? found)).1
    rw [← same id member]
    rw [← asked] at found
    exact keyed i id found
  · rw [← asked]
    exact keys

section cons

variable {o : Options} {several : Bool} {t : Tree} {next id : Nat} {rest : List Nat}
  {w : Tree × List String}

theorem Marking.cons_silent (silent : receives several (t.node id) = false)
    (own : w.1.node id = marked o (t.node id)) (tail : Marking o several t next rest w) :
    Marking o several t next (id :: rest) w := by
  have shorter : receivers several t (id :: rest) = receivers several t rest := by
    simp [receivers, silent]
  constructor
  · intro other member unasked
    rcases List.mem_cons.mp member with rfl | later
    · exact own
    · exact tail.unkeyed other later unasked
  · rw [shorter]
    exact tail.keyed
  · rw [shorter]
    exact tail.keys

theorem Marking.cons_asked (asked : receives several (t.node id) = true)
    (own : w.1.node id = Binding.keyed o next (marked o (t.node id)))
    (tail : Marking o several t (next + 1) rest w) :
    Marking o several t next (id :: rest) (w.1, keyText o next :: w.2) := by
  have longer : receivers several t (id :: rest) = id :: receivers several t rest := by
    simp [receivers, asked]
  constructor
  · intro other member silent
    rcases List.mem_cons.mp member with rfl | later
    · rw [asked] at silent
      cases silent
    · exact tail.unkeyed other later silent
  · intro i other found
    rw [longer] at found
    cases i with
    | zero =>
        cases Option.some.inj found
        exact own
    | succ i =>
        have shifted : next + (i + 1) = next + 1 + i := by omega
        rw [shifted]
        exact tail.keyed i other found
  · rw [longer, List.length_cons, List.range'_succ, List.map_cons, tail.keys]

end cons

theorem markAll_marking {o : Options} (free : Unrelated o) (inside : ∀ id ∈ ids, id < t.size)
    (distinct : ids.Nodup) : Marking o several t next ids (markAll o several t next ids) := by
  induction ids generalizing t next with
  | nil => exact ⟨by simp, by simp [receivers], rfl⟩
  | cons id rest ih =>
      obtain ⟨stranger, distinct_rest⟩ := List.nodup_cons.mp distinct
      have here := inside id List.mem_cons_self
      -- Whatever has been written on the first node, the rest is marked as it was.
      have tail (u : Tree) (k : Nat) (size : u.size = t.size)
          (kept : ∀ other, id ≠ other → u.node other = t.node other) :
          Marking o several t k rest (markAll o several u k rest) := by
        have below : ∀ other ∈ rest, other < u.size := by
          intro other member
          rw [size]
          exact inside other (List.mem_cons_of_mem _ member)
        apply (ih u k below distinct_rest).congr
        intro other member
        exact kept other (ne_of_mem_of_not_mem member stranger).symm
      have written := t.node_update_self id (marked o) here
      rw [markAll_cons several next rest free here]
      cases asked : receives several (t.node id) with
      | false =>
          rw [if_neg (by simp)]
          apply Marking.cons_silent asked
          · rw [node_markAll_ne _ _ _ _ _ stranger, written]
          · exact tail _ next (t.size_update id _) (fun other ne => t.node_update_ne id other _ ne)
      | true =>
          rw [if_pos rfl]
          apply Marking.cons_asked asked
          · rw [node_markAll_ne _ _ _ _ _ stranger,
              Tree.node_update_self _ id _ (by simpa using here), written]
          · apply tail _ (next + 1) (by simp)
            intro other ne
            rw [Tree.node_update_ne _ id other _ ne, t.node_update_ne id other _ ne]

theorem keyText_inj {o : Options} {i k : Nat} (same : keyText o i = keyText o k) : i = k :=
  Text.eq_of_append_toString same

theorem keys_nodup (o : Options) (next count : Nat) :
    ((List.range' next count).map (keyText o)).Nodup := by
  rw [List.Nodup, List.pairwise_map]
  apply (List.nodup_range' 1).imp
  intro i k ne same
  exact ne (keyText_inj same)

section counter

/-- As `markAll`, with a counter of 32 bits, which runs over into negative numbers. -/
def markAll32 (o : Options) (several : Bool) (t : Tree) (next : Int32) :
    List Nat → Tree × List String
  | [] => (t, [])
  | id :: ids =>
    let marked := t.setAttr id o.boundRootAttribute .bare
    if needsKey marked several id then
      let key := o.keyPrefix ++ toString next.toInt
      let (t, keys) := markAll32 o several (marked.setAttr id "key" (.text key)) (next + 1) ids
      (t, key :: keys)
    else markAll32 o several marked next ids

theorem keyText_ofNat (o : Options) {k : Nat} (small : k < 2147483648) :
    o.keyPrefix ++ toString (Int32.ofNat k).toInt = keyText o k := by
  rw [Int32.toInt_ofNat_of_lt small]
  rfl

/-- The counter does not run over before that many keys have been given out. -/
theorem markAll32_eq (room : next + (markAll o several t next ids).2.length ≤ 2147483647) :
    markAll32 o several t (Int32.ofNat next) ids = markAll o several t next ids := by
  induction ids generalizing t next with
  | nil => rfl
  | cons id rest ih =>
      rw [markAll] at room ⊢
      rw [markAll32]
      cases asked : needsKey (t.setAttr id o.boundRootAttribute .bare) several id with
      | false =>
          simp only [asked, Bool.false_eq_true, if_false] at room ⊢
          exact ih _ _ room
      | true =>
          simp only [asked, if_true, List.length_cons] at room ⊢
          have following : Int32.ofNat next + 1 = Int32.ofNat (next + 1) :=
            (Int32.ofNat_add next 1).symm
          rw [keyText_ofNat o (by omega), following, ih _ _ (by omega)]

end counter

end TemplateWiring.Binding
