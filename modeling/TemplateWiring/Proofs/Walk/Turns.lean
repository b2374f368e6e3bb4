import TemplateWiring.Proofs.Tree.Grafting
import TemplateWiring.Proofs.Tree.Leaving
import TemplateWiring.Template.Walk

/-! Which nodes a walk enters when the visitor detaches whatever it likes. Every node has its turn, in
the document order of the tree as it was at the start, and what has been noted by then decides
whether it is entered. -/

namespace TemplateWiring

namespace Verdict

variable {ε : Type}

def failure? : Verdict ε → Option ε
  | descend | prune => none
  | fail e => some e

def goesOn : Verdict ε → Bool
  | descend => true
  | prune | fail _ => false

theorem goesOn_iff (v : Verdict ε) : v.goesOn = true ↔ v = descend := by
  cases v <;> simp [goesOn]

end Verdict

namespace Walk

open TemplateWiring.Tree

structure Entry (ε : Type) where
  id : Nat
  detach : List Nat
  verdict : Verdict ε
  deriving DecidableEq, Repr

variable {σ ε : Type}

def entered (log : List (Entry ε)) : List Nat := log.map (·.id)

def gone (log : List (Entry ε)) : List Nat := log.flatMap (·.detach)

def failure? (log : List (Entry ε)) : Option ε := log.findSome? (·.verdict.failure?)

def noted (visit : Visitor σ ε) : Visitor (σ × List (Entry ε)) ε := fun s t id =>
  let v := visit s.1 t id
  { state := (v.state, s.2 ++ [⟨id, v.detach, v.verdict⟩]), detach := v.detach, verdict := v.verdict }

def log (visit : Visitor σ ε) (s : σ) (t : Tree) : List (Entry ε) :=
  (run (noted visit) (s, []) t).state.2

/-- Whether a node is entered when its turn comes: nothing has failed, no one has named it, and its
parent went on. -/
def due (t : Tree) (log : List (Entry ε)) (id : Nat) : Bool :=
  (failure? log).isNone && !(gone log).contains id &&
    (id == 0 || log.any fun e => e.verdict.goesOn && (t.node id).parent == some e.id)

def turn (visit : Visitor σ ε) (t : Tree) (s : σ × List (Entry ε)) (id : Nat) :
    σ × List (Entry ε) :=
  if due t s.2 id then (noted visit s (t.detachAll (gone s.2)) id).state else s

def turns (visit : Visitor σ ε) (t : Tree) (s : σ × List (Entry ε)) (ids : List Nat) :
    σ × List (Entry ε) :=
  ids.foldl (turn visit t) s

def ofTurns (t : Tree) (s : σ × List (Entry ε)) : Walk (σ × List (Entry ε)) ε :=
  ⟨s, t.detachAll (gone s.2), failure? s.2⟩

def forget (w : Walk (σ × List (Entry ε)) ε) : Walk σ ε := ⟨w.state.1, w.tree, w.error⟩

variable {visit : Visitor σ ε} {t : Tree}

mutual

theorem forget_enter (bound : Nat) (s : σ × List (Entry ε)) (t : Tree) (id : Nat) :
    forget (enter (noted visit) bound s t id) = enter visit bound s.1 t id := by
  rw [enter, enter]
  simp only [noted]
  cases (visit s.1 t id).verdict with
  | fail e => rfl
  | prune => rfl
  | descend => exact forget_enterAll bound _ _ id _
termination_by (bound - id, 1, 0)

theorem forget_enterAll (bound : Nat) (s : σ × List (Entry ε)) (t : Tree) (id : Nat)
    (children : List Nat) : forget (enterAll (noted visit) bound s t id children) =
      enterAll visit bound s.1 t id children := by
  cases children with
  | nil =>
      rw [enterAll, enterAll]
      rfl
  | cons child rest =>
      rw [enterAll, enterAll]
      split
      · exact forget_enterAll bound s t id rest
      · split
        next bounds =>
          have first := forget_enter bound s t child
          rw [← first]
          simp only [forget]
          cases (enter (noted visit) bound s t child).error with
          | some e => rfl
          | none => exact forget_enterAll bound _ _ id rest
        next => exact forget_enterAll bound s t id rest
termination_by (bound - id, 0, children.length)

end

theorem gone_append (first second : List (Entry ε)) :
    gone (first ++ second) = gone first ++ gone second := List.flatMap_append

theorem gone_single (e : Entry ε) : gone [e] = e.detach := List.append_nil _

theorem failure?_single (e : Entry ε) : failure? [e] = e.verdict.failure? := by
  cases found : e.verdict.failure? <;> simp [failure?, found]

theorem failure?_append (first second : List (Entry ε)) :
    failure? (first ++ second) = (failure? first).or (failure? second) := List.findSome?_append

theorem failure?_eq_none {log : List (Entry ε)} :
    failure? log = none ↔ ∀ e ∈ log, e.verdict.failure? = none := List.findSome?_eq_none_iff

theorem due_iff {log : List (Entry ε)} {id : Nat} : due t log id = true ↔
    failure? log = none ∧ id ∉ gone log ∧
      (id = 0 ∨ ∃ e ∈ log, e.verdict.goesOn = true ∧ (t.node id).parent = some e.id) := by
  simp [due, Option.isNone_iff_eq_none, and_assoc]

theorem not_due_of_failure {log : List (Entry ε)} {id : Nat} (failed : failure? log ≠ none) :
    due t log id = false := by
  rw [Bool.eq_false_iff, ne_eq, due_iff]
  intro held
  exact failed held.1

theorem not_due_of_gone {log : List (Entry ε)} {id : Nat} (named : id ∈ gone log) :
    due t log id = false := by
  rw [Bool.eq_false_iff, ne_eq, due_iff]
  intro held
  exact held.2.1 named

theorem turn_idle {s : σ × List (Entry ε)} {id : Nat} (idle : due t s.2 id = false) :
    turn visit t s id = s := by
  rw [turn, idle]
  rfl

theorem turn_due {s : σ × List (Entry ε)} {id : Nat} (held : due t s.2 id = true) :
    turn visit t s id = (noted visit s (t.detachAll (gone s.2)) id).state := by
  rw [turn, held]
  rfl

theorem noted_log (visit : Visitor σ ε) (s : σ × List (Entry ε)) (t : Tree) (id : Nat) :
    (noted visit s t id).state.2 =
      s.2 ++ [⟨id, (visit s.1 t id).detach, (visit s.1 t id).verdict⟩] := rfl

theorem turns_cons (s : σ × List (Entry ε)) (id : Nat) (rest : List Nat) :
    turns visit t s (id :: rest) = turns visit t (turn visit t s id) rest := rfl

theorem turns_append (s : σ × List (Entry ε)) (first second : List Nat) :
    turns visit t s (first ++ second) = turns visit t (turns visit t s first) second :=
  List.foldl_append

theorem turns_idle {s : σ × List (Entry ε)} (ids : List Nat)
    (idle : ∀ id ∈ ids, due t s.2 id = false) : turns visit t s ids = s := by
  induction ids with
  | nil => rfl
  | cons id rest ih =>
      rw [turns_cons, turn_idle (idle id List.mem_cons_self)]
      exact ih fun other member => idle other (List.mem_cons_of_mem _ member)

theorem turns_failed {s : σ × List (Entry ε)} (ids : List Nat) (failed : failure? s.2 ≠ none) :
    turns visit t s ids = s := turns_idle ids fun _ _ => not_due_of_failure failed

theorem turns_log (visit : Visitor σ ε) (t : Tree) (s : σ × List (Entry ε)) (ids : List Nat) :
    ∃ new, (turns visit t s ids).2 = s.2 ++ new ∧ (entered new).Sublist ids := by
  induction ids generalizing s with
  | nil => exact ⟨[], (List.append_nil _).symm, List.Sublist.refl _⟩
  | cons id rest ih =>
      rw [turns_cons]
      cases held : due t s.2 id with
      | false =>
          rw [turn_idle held]
          obtain ⟨new, log, order⟩ := ih s
          exact ⟨new, log, order.cons id⟩
      | true =>
          rw [turn_due held]
          have entry := noted_log visit s (t.detachAll (gone s.2)) id
          obtain ⟨new, log, order⟩ := ih (noted visit s (t.detachAll (gone s.2)) id).state
          rw [entry, List.append_assoc] at log
          exact ⟨_, log, order.cons_cons id⟩

theorem idle_below (wf : WellFormed t) {log : List (Entry ε)} {id : Nat}
    (idle : due t log id = false) (apart : ∀ e ∈ log, e.id ∉ t.subtree id) :
    ∀ other ∈ t.subtree id, due t log other = false := by
  intro other found
  by_cases first : other = id
  · rw [first]
    exact idle
  · obtain ⟨parent, inside, link, -⟩ := listing_parent wf id other found first
    have upward := wf.above parent other link
    rw [Bool.eq_false_iff, ne_eq, due_iff]
    rintro ⟨-, -, top | ⟨e, member, -, owner⟩⟩
    · omega
    · cases link.symm.trans owner
      exact apart e member inside

/-- The children of a node that went on, given how each of them is entered. Those that are in `early`
have been detached before the node's children were looked up. -/
theorem enterAll_eq_turns (wf : WellFormed t) {id : Nat} {early : List Nat}
    (enters : ∀ child ∈ t.children id, ∀ s : σ × List (Entry ε), due t s.2 child = true →
      (∀ e ∈ s.2, e.id ∉ t.subtree child) →
        enter (noted visit) t.size s (t.detachAll (gone s.2)) child =
          ofTurns t (turns visit t s (t.subtree child)))
    (children : List Nat) (own : children.Sublist (t.children id)) (s : σ × List (Entry ε))
    (sound : failure? s.2 = none) (above : ∃ e ∈ s.2, e.verdict.goesOn = true ∧ e.id = id)
    (apart : ∀ child ∈ children, ∀ e ∈ s.2, e.id ∉ t.subtree child)
    (named : ∀ other ∈ early, other ∈ gone s.2) :
    enterAll (noted visit) t.size s (t.detachAll (gone s.2)) id (children.filter (· ∉ early)) =
      ofTurns t (turns visit t s (children.flatMap t.subtree)) := by
  induction children generalizing s with
  | nil =>
      rw [List.filter_nil, enterAll, List.flatMap_nil]
      simp [turns, ofTurns, sound]
  | cons child rest ih =>
      have member : child ∈ t.children id := own.subset List.mem_cons_self
      have later : rest.Sublist (t.children id) := (List.sublist_cons_self child rest).trans own
      have bounds := And.intro (wf.child_above member) (wf.child_inside member)
      have alone := apart child List.mem_cons_self
      have others := fun other found => apart other (List.mem_cons_of_mem child found)
      rw [List.flatMap_cons, turns_append]
      by_cases left : child ∈ gone s.2
      · have detached : (t.detachAll (gone s.2)).isDetached child = true := by
          simp [detached_detachAll, left, bounds.2]
        rw [turns_idle _ (idle_below wf (not_due_of_gone left) alone)]
        by_cases before : child ∈ early
        · rw [List.filter_cons_of_neg (by simpa using before)]
          exact ih later s sound above others named
        · rw [List.filter_cons_of_pos (by simpa using before), enterAll, if_pos detached]
          exact ih later s sound above others named
      · have kept : child ∉ early := fun before => left (named child before)
        have present : (t.detachAll (gone s.2)).isDetached child = false := by
          simp [detached_detachAll, wf.child_present member, left]
        have held : due t s.2 child = true := by
          obtain ⟨e, found, goesOn, same⟩ := above
          have link := (wf.linked id child).mp member
          exact due_iff.mpr ⟨sound, left, .inr ⟨e, found, goesOn, same ▸ link⟩⟩
        rw [List.filter_cons_of_pos (by simpa using kept), enterAll, if_neg (by simp [present]),
          dif_pos bounds, enters child member s held alone]
        obtain ⟨new, log, order⟩ := turns_log visit t s (t.subtree child)
        generalize turns visit t s (t.subtree child) = after at log ⊢
        simp only [ofTurns]
        cases failed : failure? after.2 with
        | some e =>
            rw [turns_failed _ (by simp [failed]), failed]
        | none =>
            apply ih later after failed
            · obtain ⟨e, found, rest⟩ := above
              exact ⟨e, log ▸ List.mem_append_left _ found, rest⟩
            · intro second among e found
              rw [log, List.mem_append] at found
              rcases found with old | fresh
              · exact others second among e old
              · have distinct := (wf.children_nodup id).sublist own
                have ne : child ≠ second := by
                  intro same
                  exact (List.nodup_cons.mp distinct).1 (same ▸ among)
                have inside := order.subset (List.mem_map_of_mem fresh)
                exact listing_disjoint wf member (later.subset among) ne e.id inside
            · intro other found
              rw [log, gone_append]
              exact List.mem_append_left _ (named other found)

/-- A node that is due is entered, and after it every node below it has its turn. -/
theorem enter_eq_turns (wf : WellFormed t) (id : Nat) : ∀ s : σ × List (Entry ε),
    due t s.2 id = true → (∀ e ∈ s.2, e.id ∉ t.subtree id) →
      enter (noted visit) t.size s (t.detachAll (gone s.2)) id =
        ofTurns t (turns visit t s (t.subtree id)) := by
  induction id using wf.induction with
  | step id ih =>
      intro s held apart
      obtain ⟨sound, -, -⟩ := due_iff.mp held
      rw [enter, subtree_eq wf, turns_cons, turn_due held, ← detachAll_append]
      simp only [noted]
      generalize visit s.1 (t.detachAll (gone s.2)) id = v
      have tree : gone s.2 ++ v.detach = gone (s.2 ++ [⟨id, v.detach, v.verdict⟩]) := by
        rw [gone_append, gone_single]
      have failed : failure? (s.2 ++ [⟨id, v.detach, v.verdict⟩]) = v.verdict.failure? := by
        rw [failure?_append, sound, failure?_single, Option.none_or]
      have apart_below : ∀ child ∈ t.children id,
          ∀ e ∈ s.2 ++ [⟨id, v.detach, v.verdict⟩], e.id ∉ t.subtree child := by
        intro child member e found below
        rcases List.mem_append.mp found with old | new
        · apply apart e old
          rw [subtree_eq wf]
          exact List.mem_cons_of_mem _ (List.mem_flatMap.mpr ⟨child, member, below⟩)
        · rw [List.mem_singleton.mp new] at below
          have upward := wf.child_above member
          have bound := listing_above wf child id below
          omega
      rw [tree]
      cases verdict : v.verdict with
      | fail e =>
          rw [verdict] at failed
          rw [turns_failed _ (by simp [failed, Verdict.failure?]), ofTurns]
          simp [failed, Verdict.failure?]
      | prune =>
          rw [verdict] at failed apart_below
          have idle : ∀ other ∈ (t.children id).flatMap t.subtree,
              due t (s.2 ++ [⟨id, v.detach, .prune⟩]) other = false := by
            intro other found
            obtain ⟨child, member, below⟩ := List.mem_flatMap.mp found
            apply idle_below wf ?_ (apart_below child member) other below
            have link := (wf.linked id child).mp member
            have upward := wf.child_above member
            rw [Bool.eq_false_iff, ne_eq, due_iff]
            rintro ⟨-, -, top | ⟨e, among, goesOn, owner⟩⟩
            · omega
            · cases link.symm.trans owner
              rcases List.mem_append.mp among with old | new
              · exact apart e old (mem_listing_self _)
              · rw [List.mem_singleton.mp new] at goesOn
                cases goesOn
          rw [turns_idle _ idle, ofTurns]
          simp [failed, Verdict.failure?]
      | descend =>
          rw [verdict] at failed apart_below
          rw [wf.children_detachAll]
          exact enterAll_eq_turns wf ih _ (List.Sublist.refl _) _ failed
            ⟨_, List.mem_append_right _ List.mem_cons_self, rfl, rfl⟩ apart_below
            (fun _ found => found)

/-- A walk gives every node its turn, in the document order of the tree as it was at the start. -/
theorem run_eq_turns (wf : WellFormed t) (visit : Visitor σ ε) (s : σ) :
    run (noted visit) (s, []) t = ofTurns t (turns visit t (s, []) t.documentOrder) :=
  enter_eq_turns wf 0 (s, []) rfl fun _ member => absurd member List.not_mem_nil

end Walk

end TemplateWiring
