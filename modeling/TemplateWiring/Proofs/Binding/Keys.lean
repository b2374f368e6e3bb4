import TemplateWiring.Proofs.Binding.Marking

namespace TemplateWiring.Binding

def staticKey? (n : Node) : Option String :=
  match Attr.lookup? n.attrs "key" with
  | some (.text key) => some key
  | _ => none

def staticKeys (ns : List Node) : List String := ns.filterMap staticKey?

/-- What is left of the keys written by hand once the marker is on. -/
def keptKeys (o : Options) (ns : List Node) : List String := staticKeys (ns.map (marked o))

def receiverCount (o : Options) (several : Bool) (ns : List Node) : Nat :=
  (ns.map (marked o)).countP (receives several)

theorem staticKey?_keyed (o : Options) (k : Nat) (n : Node) :
    staticKey? (keyed o k n) = some (keyText o k) := by
  rw [staticKey?, keyed, Attr.lookup_set]

theorem staticKey?_of_receives {several : Bool} {n : Node} (asked : receives several n = true) :
    staticKey? n = none := by
  have absent : Attr.has n.attrs "key" = false := by
    simp only [receives, Bool.and_eq_true, Bool.not_eq_true', Bool.or_eq_false_iff] at asked
    exact asked.1.1
  rw [← Attr.lookup_isSome, Option.isSome_eq_false_iff, Option.isNone_iff_eq_none] at absent
  rw [staticKey?, absent]

/-- The keys of some nodes before and after marking, with those given out numbered from `next`
on. -/
structure Keying (o : Options) (several : Bool) (next : Nat) (before after : List Node)
    (keys : List String) : Prop where
  given : keys = (List.range' next (receiverCount o several before)).map (keyText o)
  held : (staticKeys after).Perm (keptKeys o before ++ keys)

section cons

variable {o : Options} {several : Bool} {next : Nat} {n : Node} {before after : List Node}
  {keys : List String}

theorem Keying.cons_silent (silent : receives several (marked o n) = false)
    (tail : Keying o several next before after keys) :
    Keying o several next (n :: before) (marked o n :: after) keys := by
  constructor
  · have count : receiverCount o several (n :: before) = receiverCount o several before := by
      simp [receiverCount, silent]
    rw [count]
    exact tail.given
  · cases own : staticKey? (marked o n) with
    | none => simpa [staticKeys, keptKeys, own] using tail.held
    | some key => simpa [staticKeys, keptKeys, own] using tail.held.cons key

theorem Keying.cons_asked (asked : receives several (marked o n) = true)
    (tail : Keying o several (next + 1) before after keys) :
    Keying o several next (n :: before) (keyed o next (marked o n) :: after)
      (keyText o next :: keys) := by
  constructor
  · have count : receiverCount o several (n :: before) = receiverCount o several before + 1 := by
      simp [receiverCount, asked]
    rw [count, List.range'_succ, List.map_cons, tail.given]
  · have own : staticKey? (marked o n) = none := staticKey?_of_receives asked
    have first : staticKeys (keyed o next (marked o n) :: after) =
        keyText o next :: staticKeys after := by
      simp [staticKeys, staticKey?_keyed]
    have kept : keptKeys o (n :: before) = keptKeys o before := by
      simp [keptKeys, staticKeys, own]
    rw [first, kept]
    exact (tail.held.cons _).trans List.perm_middle.symm

end cons

theorem markAll_keying (o : Options) (several : Bool) (t : Tree) (next : Nat) (ids : List Nat)
    (inside : ∀ id ∈ ids, id < t.size) (distinct : ids.Nodup) :
    Keying o several next (ids.map t.node)
      (ids.map (markAll o several t next ids).1.node) (markAll o several t next ids).2 := by
  induction ids generalizing t next with
  | nil => exact ⟨rfl, .nil⟩
  | cons id rest ih =>
      obtain ⟨stranger, distinct_rest⟩ := List.nodup_cons.mp distinct
      have here := inside id List.mem_cons_self
      -- Whatever has been written on the first node, the rest is marked as it was.
      have tail (u : Tree) (k : Nat) (size : u.size = t.size)
          (kept : ∀ other, id ≠ other → u.node other = t.node other) :
          Keying o several k (rest.map t.node) (rest.map (markAll o several u k rest).1.node)
            (markAll o several u k rest).2 := by
        have below : ∀ other ∈ rest, other < u.size := by
          intro other member
          rw [size]
          exact inside other (List.mem_cons_of_mem _ member)
        have same : rest.map u.node = rest.map t.node := by
          apply List.map_congr_left
          intro other member
          exact kept other (ne_of_mem_of_not_mem member stranger).symm
        rw [← same]
        exact ih u k below distinct_rest
      have written := t.node_update_self id (marked o) here
      rw [markAll_step o several next rest here, List.map_cons, List.map_cons]
      cases asked : receives several (marked o (t.node id)) with
      | false =>
          rw [if_neg (by simp), node_markAll_ne _ _ _ _ _ stranger, written]
          exact .cons_silent asked (tail _ next (t.size_update id _)
            (fun other ne => t.node_update_ne id other _ ne))
      | true =>
          have owned := Tree.node_update_self (t.update id (marked o)) id (keyed o next)
            (by simpa using here)
          rw [written] at owned
          rw [if_pos rfl]
          dsimp only
          rw [node_markAll_ne _ _ _ _ _ stranger, owned]
          refine .cons_asked asked (tail _ (next + 1) (by simp) ?_)
          intro other ne
          rw [Tree.node_update_ne _ id other _ ne, t.node_update_ne id other _ ne]

theorem keptKeys_eq {o : Options} (free : o.boundRootAttribute ≠ "key") (ns : List Node) :
    keptKeys o ns = staticKeys ns := by
  have same (n : Node) : staticKey? (marked o n) = staticKey? n := by
    rw [staticKey?, marked, Attr.lookup_set_ne _ _ free, staticKey?]
  rw [keptKeys, staticKeys, List.filterMap_map, staticKeys]
  congr 1
  funext n
  exact same n

/-- A marker that is called a key takes the place of every other, and no key is given out. -/
theorem keyless_marker {o : Options} (marker : o.boundRootAttribute = "key") (several : Bool)
    (ns : List Node) : keptKeys o ns = [] ∧ receiverCount o several ns = 0 := by
  have bare (n : Node) : Attr.lookup? (marked o n).attrs "key" = some .bare := by
    rw [marked, marker]
    exact Attr.lookup_set _ _ _
  constructor
  · rw [keptKeys, staticKeys, List.filterMap_map, List.filterMap_eq_nil_iff]
    intro n _
    simp only [Function.comp, staticKey?, bare]
  · rw [receiverCount, List.countP_map, List.countP_eq_zero]
    intro n _
    have held : Attr.has (marked o n).attrs "key" = true := by
      rw [← Attr.lookup_isSome, bare]
      rfl
    simp [receives, held]

/-- Marking keeps keys apart exactly where none that it gives out was written by hand before. -/
theorem Keying.nodup_iff {o : Options} {several : Bool} {next : Nat} {before after : List Node}
    {keys : List String} (keying : Keying o several next before after keys)
    (distinct : (staticKeys before).Nodup) :
    (staticKeys after).Nodup ↔ ∀ key ∈ keys, key ∉ staticKeys before := by
  have unrepeated : keys.Nodup := by
    rw [keying.given]
    exact keys_nodup o next _
  rw [keying.held.nodup_iff]
  by_cases marker : o.boundRootAttribute = "key"
  · obtain ⟨none_kept, none_given⟩ := keyless_marker marker several before
    have empty : keys = [] := by
      rw [keying.given, none_given]
      rfl
    simp [none_kept, empty]
  · rw [keptKeys_eq marker, List.nodup_append]
    constructor
    · rintro ⟨_, _, apart⟩ key given written
      exact apart key written key given rfl
    · intro apart
      refine ⟨distinct, unrepeated, ?_⟩
      intro own written key given same
      exact apart key given (same ▸ written)

end TemplateWiring.Binding
