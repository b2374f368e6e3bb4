import TemplateWiring.Proofs.Binding.Marking
import TemplateWiring.Proofs.Wiring.Course

/-! Binding what is bound. Once its turn is over, a root carries the marker and asks for no key, so
that a second run finds nothing to write on it. This holds of roots that are listed twice, and of a
marker that is one of the attributes asked for. -/

namespace TemplateWiring

def Decision.keyless : Decision → Decision
  | .bound rootCount _ => .bound rootCount []
  | other => other

namespace Binding

/-- A node on which marking has nothing to write. -/
structure Stable (o : Options) (several : Bool) (n : Node) : Prop where
  marker : Attr.lookup? n.attrs o.boundRootAttribute = some .bare
  supplied : receives several n = false

variable {o : Options} {several : Bool} {t : Tree} {next : Nat} {n : Node}

theorem Stable.marked (stable : Stable o several n) : Binding.marked o n = n := by
  rw [Binding.marked, Attr.set_of_lookup stable.marker]

theorem has_marked (o : Options) (n : Node) :
    Attr.has (marked o n).attrs o.boundRootAttribute = true := by
  rw [← Attr.lookup_isSome, marked, Attr.lookup_set]
  rfl

theorem stable_marked (silent : receives several (marked o n) = false) :
    Stable o several (marked o n) :=
  ⟨Attr.lookup_set _ _ _, silent⟩

/-- A marker that is called `key` has kept the node from being given one. -/
theorem stable_keyed (asked : receives several (marked o n) = true) (k : Nat) :
    Stable o several (keyed o k (marked o n)) := by
  have unkeyed : Attr.has (marked o n).attrs "key" = false := by
    simp only [receives, Bool.and_eq_true, Bool.not_eq_true', Bool.or_eq_false_iff] at asked
    exact asked.1.1
  have other : "key" ≠ o.boundRootAttribute := by
    intro same
    rw [same, has_marked] at unkeyed
    cases unkeyed
  constructor
  · rw [keyed, Attr.lookup_set_ne _ _ other, marked, Attr.lookup_set]
  · have given : Attr.has (keyed o k (marked o n)).attrs "key" = true := by
      rw [← Attr.lookup_isSome, keyed, Attr.lookup_set]
      rfl
    simp [receives, given]

def turned (o : Options) (several : Bool) (next : Nat) (n : Node) : Node :=
  if receives several (marked o n) then keyed o next (marked o n) else marked o n

theorem stable_turned (o : Options) (several : Bool) (next : Nat) (n : Node) :
    Stable o several (turned o several next n) := by
  rw [turned]
  split
  next asked => exact stable_keyed asked next
  next silent => exact stable_marked (by simpa using silent)

theorem turned_stable (stable : Stable o several n) : turned o several next n = n := by
  rw [turned, stable.marked, stable.supplied, if_neg (by simp)]

section turns

variable (ids : List Nat) {id : Nat}

theorem update_turned (t : Tree) (id : Nat) : t.update id (turned o several next) =
    if receives several (marked o (t.node id)) then
      (t.update id (marked o)).update id (keyed o next)
    else t.update id (marked o) := by
  apply Tree.eq_of_nodes
  · split <;> simp
  · intro other
    rw [Tree.node_update]
    by_cases here : id = other ∧ other < t.size
    · obtain ⟨rfl, inside⟩ := here
      rw [if_pos ⟨rfl, inside⟩, turned]
      split
      · rw [Tree.node_update_self _ _ _ (by simpa using inside), Tree.node_update_self _ _ _ inside]
      · rw [Tree.node_update_self _ _ _ inside]
    · rw [if_neg here]
      split <;> simp [Tree.node_update, here]

theorem markAll_turn (o : Options) (several : Bool) (next : Nat) (inside : id < t.size) :
    ∃ k keys,
    (receives several (marked o (t.node id)) = false → keys = []) ∧
      markAll o several t next (id :: ids) =
        let w := markAll o several (t.update id (turned o several next)) k ids
        (w.1, keys ++ w.2) := by
  rw [markAll_step o several next ids inside, update_turned]
  cases receives several (marked o (t.node id)) with
  | true => exact ⟨next + 1, [keyText o next], nofun, rfl⟩
  | false => exact ⟨next, [], fun _ => rfl, rfl⟩

theorem node_markAll_stable {other : Nat} (inside : ∀ id ∈ ids, id < t.size)
    (stable : Stable o several (t.node other)) :
    (markAll o several t next ids).1.node other = t.node other := by
  induction ids generalizing t next with
  | nil => rfl
  | cons id rest ih =>
      obtain ⟨k, keys, -, unfolded⟩ :=
        markAll_turn rest o several next (inside id List.mem_cons_self)
      have kept : (t.update id (turned o several next)).node other = t.node other := by
        rw [Tree.node_update]
        split
        next => exact turned_stable stable
        next => rfl
      rw [unfolded]
      dsimp only
      rw [ih, kept]
      · intro id member
        rw [Tree.size_update]
        exact inside id (List.mem_cons_of_mem _ member)
      · rw [kept]
        exact stable

theorem stable_markAll (o : Options) (several : Bool) (next : Nat)
    (inside : ∀ id ∈ ids, id < t.size) : ∀ id ∈ ids,
      Stable o several ((markAll o several t next ids).1.node id) := by
  induction ids generalizing t next with
  | nil => exact fun id member => absurd member List.not_mem_nil
  | cons first rest ih =>
      have here := inside first List.mem_cons_self
      obtain ⟨k, keys, -, unfolded⟩ := markAll_turn rest o several next here
      have later : ∀ id ∈ rest, id < (t.update first (turned o several next)).size := by
        intro id member
        rw [Tree.size_update]
        exact inside id (List.mem_cons_of_mem _ member)
      rw [unfolded]
      intro id member
      rcases List.mem_cons.mp member with rfl | after
      · have own : Stable o several ((t.update id (turned o several next)).node id) := by
          rw [Tree.node_update_self _ _ _ here]
          exact stable_turned o several next _
        dsimp only
        rw [node_markAll_stable rest later own]
        exact own
      · exact ih k later id after

theorem markAll_stable (next : Nat) (inside : ∀ id ∈ ids, id < t.size)
    (stable : ∀ id ∈ ids, Stable o several (t.node id)) :
    markAll o several t next ids = (t, []) := by
  induction ids generalizing next with
  | nil => rfl
  | cons id rest ih =>
      have own := stable id List.mem_cons_self
      obtain ⟨k, keys, silent, unfolded⟩ :=
        markAll_turn rest o several next (inside id List.mem_cons_self)
      have none : keys = [] := silent (by rw [own.marked, own.supplied])
      rw [unfolded, Tree.update_eq_self _ _ _ (turned_stable own), none,
        ih k (fun other member => inside other (List.mem_cons_of_mem _ member))
          (fun other member => stable other (List.mem_cons_of_mem _ member))]
      rfl

end turns

theorem size_markAll (o : Options) (several : Bool) (t : Tree) (next : Nat) (ids : List Nat) :
    (markAll o several t next ids).1.size = t.size := by
  apply markAll_induction o several t next ids (fun u => u.size = t.size) rfl
  intro u id name value _ kept
  rw [Tree.size_setAttr, kept]

/-- Binding the same roots again changes neither the tree nor the document, and comes to the same
decision, except that no key is given out any more. -/
theorem bind_again (t : Tree) (d : Document) (r : Roots) (inside : ∀ id ∈ r.nodes, id < t.size) :
    bind (bind t d r).1 (bind t d r).2.1 r =
      ((bind t d r).1, (bind t d r).2.1, (bind t d r).2.2.keyless) := by
  have ruling := bind_ruling t d r
  generalize same : bind t d r = first at ruling ⊢
  cases ruling with
  | explicit => exact same
  | unbound => exact same
  | rootless => exact same
  | ambiguous => exact same
  | bound own ready some clear tree keys marking =>
      have marked : tree = (markAll d.options (decide (1 < r.nodes.length)) t 0 r.nodes).1 := by
        rw [marking]
      have within : ∀ id ∈ r.nodes, id < tree.size := by
        rw [marked, size_markAll]
        exact inside
      have stable := stable_markAll r.nodes d.options (decide (1 < r.nodes.length)) 0 inside
      rw [← marked] at stable
      have again := markAll_stable r.nodes 0 within stable
      have decided : (decide (1 < r.nodes.length) && decide (0 < r.idCount)) = false := by
        rw [Bool.and_eq_false_iff, decide_eq_false_iff_not, decide_eq_false_iff_not]
        omega
      have ready' : d.markBound.isBound = true := rfl
      have options : d.markBound.options = d.options := rfl
      simp only [bind, own, ready', some, decided, options, again]
      rfl

def mixedTags : Template :=
  .root [
    .element .html "div" [⟨"class", .text "a"⟩] [] 0 none,
    .element .custom "app-tab" [⟨"ref", .bare⟩] [] 10 none,
    .element .html "p" [⟨"_componentbind", .text "own"⟩] [] 30 none]

def listedTwice : Roots where
  nodes := [1, 3, 2, 1]

/-- It gets its key at its first turn, and nothing is left to be done at the second. -/
theorem listedTwice_again :
    (∀ id ∈ listedTwice.nodes, id < (Tree.ofTemplate mixedTags).size) ∧
      ∃ keyed d, bind (Tree.ofTemplate mixedTags) Wiring.besideComponent listedTwice =
          (keyed, d, .bound 4 ["_r0", "_r1"]) ∧
        bind keyed d listedTwice = (keyed, d, .bound 4 []) := by
  have inside : ∀ id ∈ listedTwice.nodes, id < (Tree.ofTemplate mixedTags).size := by
    decide +kernel
  have decision : (bind (Tree.ofTemplate mixedTags) Wiring.besideComponent listedTwice).2.2 =
      .bound 4 ["_r0", "_r1"] := by decide +kernel
  have again := bind_again _ Wiring.besideComponent listedTwice inside
  rcases first : bind (Tree.ofTemplate mixedTags) Wiring.besideComponent listedTwice with
    ⟨keyed, d, decided⟩
  rw [first] at decision again
  dsimp only at decision again
  subst decision
  exact ⟨inside, keyed, d, rfl, again⟩

end Binding

end TemplateWiring
