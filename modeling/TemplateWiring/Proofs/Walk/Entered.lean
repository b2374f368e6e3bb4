import TemplateWiring.Proofs.Walk.Turns

namespace TemplateWiring

namespace Tree

variable {t : Tree}

def ahead (t : Tree) (id : Nat) : List Nat := t.documentOrder.takeWhile (· ≠ id)

theorem documentOrder_nodup (wf : WellFormed t) : t.documentOrder.Nodup := listing_nodup wf 0

theorem subtree_sublist (wf : WellFormed t) (id : Nat) :
    ∀ other ∈ t.subtree id, (t.subtree other).Sublist (t.subtree id) := by
  induction id using wf.induction with
  | step id ih =>
      intro other found
      rcases (mem_listing_iff wf id other).mp found with same | ⟨-, child, member, below⟩
      · exact same ▸ List.Sublist.refl _
      · have inner := ih child member other below
        have outer : (t.subtree child).Sublist ((t.children id).flatMap t.subtree) :=
          List.sublist_flatten_of_mem (List.mem_map_of_mem member)
        rw [subtree_eq wf id]
        exact (inner.trans outer).cons id

theorem ahead_eq (wf : WellFormed t) {front back : List Nat} {id : Nat}
    (split : t.documentOrder = front ++ id :: back) : t.ahead id = front := by
  have distinct := documentOrder_nodup wf
  rw [split] at distinct
  have apart : ∀ other ∈ front, decide (other ≠ id) = true := by
    intro other found
    simpa using (List.nodup_append.mp distinct).2.2 other found id List.mem_cons_self
  rw [ahead, split, List.takeWhile_append_of_pos apart]
  simp

theorem parent_ahead (wf : WellFormed t) {parent id : Nat}
    (link : (t.node id).parent = some parent) (above : parent ∈ t.documentOrder) :
    parent ∈ t.ahead id := by
  have member := (wf.linked parent id).mpr link
  have found : id ∈ t.documentOrder := listing_child wf 0 parent above rfl id member
  obtain ⟨front, back, split⟩ := List.append_of_mem found
  have pair : [parent, id].Sublist t.documentOrder := by
    have below : [id].Sublist ((t.children parent).flatMap t.subtree) :=
      List.singleton_sublist.mpr (List.mem_flatMap.mpr ⟨id, member, mem_listing_self id⟩)
    have own : [parent, id].Sublist (t.subtree parent) := by
      rw [subtree_eq wf]
      exact below.cons_cons parent
    exact own.trans (subtree_sublist wf 0 parent above)
  have distinct := documentOrder_nodup wf
  rw [ahead_eq wf split]
  rw [split] at pair distinct
  obtain ⟨first, second, parts, left, right⟩ := List.sublist_append_iff.mp pair
  cases first with
  | cons head tail =>
      have same : parent = head := (List.cons.inj parts).1
      rw [same]
      exact left.subset List.mem_cons_self
  | nil =>
      -- Both would stand from the child on, where the child is first and stands once.
      rw [List.nil_append] at parts
      subst parts
      have once := (List.nodup_cons.mp (List.nodup_append.mp distinct).2.1).1
      have ne : parent ≠ id := Nat.ne_of_lt (wf.above parent id link)
      have later : [parent, id].Sublist back := by
        cases right with
        | cons _ later => exact later
        | cons_cons => exact absurd rfl ne
      exact absurd (later.subset (by simp)) once

end Tree

namespace Walk

open TemplateWiring.Tree

variable {σ ε : Type} {visit : Visitor σ ε} {t : Tree}

theorem run_noted (visit : Visitor σ ε) (s : σ) (t : Tree) :
    run (noted visit) (s, []) t =
      ⟨((run visit s t).state, log visit s t), (run visit s t).tree, (run visit s t).error⟩ := by
  have plain : forget (run (noted visit) (s, []) t) = run visit s t :=
    forget_enter t.size (s, []) t 0
  rw [← plain]
  rfl

theorem log_eq_turns (wf : WellFormed t) (visit : Visitor σ ε) (s : σ) :
    log visit s t = (turns visit t (s, []) t.documentOrder).2 := by
  rw [log, run_eq_turns wf]
  rfl

theorem entered_sublist (wf : WellFormed t) (visit : Visitor σ ε) (s : σ) :
    (entered (log visit s t)).Sublist t.documentOrder := by
  obtain ⟨new, found, order⟩ := turns_log visit t (s, []) t.documentOrder
  rw [log_eq_turns wf, found, List.nil_append]
  exact order

/-- What has been noted when the turn of a node comes is what is noted in the end of the nodes before
it, and it settles whether the node is entered. -/
theorem log_at_turn (wf : WellFormed t) (visit : Visitor σ ε) (s : σ) {front back : List Nat}
    {id : Nat} (split : t.documentOrder = front ++ id :: back) :
    id ∈ entered (log visit s t) ↔
      due t ((log visit s t).filter (·.id ∈ front)) id = true := by
  have distinct := documentOrder_nodup wf
  rw [split] at distinct
  obtain ⟨-, tail, apart⟩ := List.nodup_append.mp distinct
  have once := (List.nodup_cons.mp tail).1
  obtain ⟨early, noted_early, order⟩ := turns_log visit t (s, []) front
  have all : log visit s t =
      (turns visit t (turn visit t (turns visit t (s, []) front) id) back).2 := by
    rw [log_eq_turns wf, split, turns_append, turns_cons]
  rw [List.nil_append] at noted_early
  generalize turns visit t (s, []) front = at_turn at noted_early all
  obtain ⟨late, noted_late, order'⟩ := turns_log visit t
    (turn visit t at_turn id) back
  rw [all, noted_late]
  have kept : early.filter (·.id ∈ front) = early := by
    apply List.filter_eq_self.mpr
    intro e member
    simpa using order.subset (List.mem_map_of_mem member)
  have dropped : late.filter (·.id ∈ front) = [] := by
    apply List.filter_eq_nil_iff.mpr
    intro e member
    have behind := order'.subset (List.mem_map_of_mem member)
    simpa using fun found => apart e.id found e.id (List.mem_cons_of_mem _ behind) rfl
  have itself : id ∉ front := fun found => apart id found id List.mem_cons_self rfl
  have unseen : id ∉ entered early ∧ id ∉ entered late :=
    ⟨fun found => itself (order.subset found), fun found => once (order'.subset found)⟩
  cases held : due t at_turn.2 id with
  | true =>
      rw [turn_due held, noted_log, noted_early]
      rw [noted_early] at held
      simp [entered, kept, dropped, itself, held]
  | false =>
      rw [turn_idle held, noted_early]
      rw [noted_early] at held
      simp only [entered] at unseen
      simp [entered, kept, dropped, held, unseen]

/-- A node is entered when its parent has been and went on, provided that nothing before it has failed
or has named it. -/
theorem entered_iff (wf : WellFormed t) (visit : Visitor σ ε) (s : σ) {id : Nat}
    (below : id ≠ 0) : id ∈ entered (log visit s t) ↔
      (∃ e ∈ log visit s t, (t.node id).parent = some e.id ∧ e.verdict = .descend) ∧
        ∀ e ∈ log visit s t, e.id ∈ t.ahead id → e.verdict.failure? = none ∧ id ∉ e.detach := by
  have reached : ∀ e ∈ log visit s t, e.id ∈ t.documentOrder :=
    fun e member => (entered_sublist wf visit s).subset (List.mem_map_of_mem member)
  by_cases found : id ∈ t.documentOrder
  · obtain ⟨front, back, split⟩ := List.append_of_mem found
    have same : t.ahead id = front := ahead_eq wf split
    rw [log_at_turn wf visit s split, due_iff, failure?_eq_none, same]
    constructor
    · rintro ⟨sound, unnamed, top | ⟨e, member, goesOn, link⟩⟩
      · exact absurd top below
      · refine ⟨⟨e, (List.mem_filter.mp member).1, link, e.verdict.goesOn_iff.mp goesOn⟩, ?_⟩
        intro other noted early
        have held : other ∈ (log visit s t).filter (·.id ∈ front) :=
          List.mem_filter.mpr ⟨noted, by simpa using early⟩
        refine ⟨sound other held, fun named => unnamed ?_⟩
        exact List.mem_flatMap.mpr ⟨other, held, named⟩
    · rintro ⟨⟨e, member, link, goesOn⟩, early⟩
      have upward := parent_ahead wf link (reached e member)
      rw [same] at upward
      have parts (other : Entry ε) (held : other ∈ (log visit s t).filter (·.id ∈ front)) :
          other.verdict.failure? = none ∧ id ∉ other.detach := by
        obtain ⟨noted, before⟩ := List.mem_filter.mp held
        exact early other noted (by simpa using before)
      refine ⟨fun other held => (parts other held).1, ?_, .inr ⟨e, ?_, ?_, link⟩⟩
      · intro named
        obtain ⟨other, held, inside⟩ := List.mem_flatMap.mp named
        exact (parts other held).2 inside
      · exact List.mem_filter.mpr ⟨member, by simpa using upward⟩
      · exact e.verdict.goesOn_iff.mpr goesOn
  · constructor
    · exact fun held => absurd ((entered_sublist wf visit s).subset held) found
    · rintro ⟨⟨e, member, link, -⟩, -⟩
      have child := (wf.linked e.id id).mpr link
      exact absurd (listing_child wf 0 e.id (reached e member) rfl id child) found

theorem failure_last (visit : Visitor σ ε) (t : Tree) (ids : List Nat) (s : σ × List (Entry ε))
    (sound : ∀ front e back, s.2 = front ++ e :: back → e.verdict.failure? ≠ none → back = []) :
    ∀ front e back, (turns visit t s ids).2 = front ++ e :: back →
      e.verdict.failure? ≠ none → back = [] := by
  induction ids generalizing s with
  | nil => exact sound
  | cons id rest ih =>
      rw [turns_cons]
      apply ih
      cases held : due t s.2 id with
      | false =>
          rw [turn_idle held]
          exact sound
      | true =>
          rw [turn_due held, noted_log]
          intro front e back split failed
          rcases List.eq_nil_or_concat back with none | ⟨middle, last, some⟩
          · exact none
          · -- The entry would be one of those before, none of which has failed.
            rw [some, List.concat_eq_append, ← List.cons_append, ← List.append_assoc] at split
            have older := (List.append_inj' split rfl).1
            have clear := failure?_eq_none.mp (due_iff.mp held).1 e
            exact absurd (clear (older ▸ List.mem_append_right _ List.mem_cons_self)) failed

theorem failure?_last {log : List (Entry ε)}
    (last : ∀ front e back, log = front ++ e :: back → e.verdict.failure? ≠ none → back = []) :
    failure? log = log.getLast?.bind (·.verdict.failure?) := by
  rcases List.eq_nil_or_concat log with none | ⟨front, e, some⟩
  · rw [none]
    rfl
  · rw [List.concat_eq_append] at some
    have clear : failure? front = none := by
      rw [failure?_eq_none]
      intro other member
      apply Decidable.byContradiction
      intro failed
      obtain ⟨left, right, split⟩ := List.append_of_mem member
      have empty := last left other (right ++ [e]) (by rw [some, split]; simp) failed
      simp at empty
    rw [some, failure?_append, clear, failure?_single, Option.none_or]
    simp

/-- A visitor that fails in places is ahead of no other one that does the same everywhere else. -/
theorem turns_prefix {mild : Visitor σ ε}
    (alike : ∀ s t id, (visit s t id).verdict.failure? = none → mild s t id = visit s t id)
    (ids : List Nat) (s : σ × List (Entry ε)) :
    entered (turns visit t s ids).2 <+: entered (turns mild t s ids).2 := by
  induction ids generalizing s with
  | nil => exact List.prefix_refl _
  | cons id rest ih =>
      rw [turns_cons, turns_cons]
      cases held : due t s.2 id with
      | false =>
          rw [turn_idle held, turn_idle held]
          exact ih s
      | true =>
          rw [turn_due held, turn_due held]
          have entry := noted_log visit s (t.detachAll (gone s.2)) id
          have entry' := noted_log mild s (t.detachAll (gone s.2)) id
          cases failed : (visit s.1 (t.detachAll (gone s.2)) id).verdict.failure? with
          | none =>
              have same := alike _ _ _ failed
              have step : noted mild s (t.detachAll (gone s.2)) id =
                  noted visit s (t.detachAll (gone s.2)) id := by rw [noted, noted, same]
              rw [step]
              exact ih _
          | some e =>
              -- Here the first visitor stops, at a node that the other one enters as well.
              have stopped : failure? (noted visit s (t.detachAll (gone s.2)) id).state.2 ≠ none := by
                rw [entry, failure?_append, (due_iff.mp held).1, failure?_single, failed]
                simp
              rw [turns_failed rest stopped, entry]
              obtain ⟨new, noted_new, -⟩ := turns_log mild t
                (noted mild s (t.detachAll (gone s.2)) id).state rest
              rw [noted_new, entry']
              refine ⟨entered new, ?_⟩
              simp [entered]

/-- A walk whose visitor detaches at will. It enters the root and then, in the document order of the
tree as it was at the start and none twice, every node whose parent it entered and went on from,
unless something before that node has failed or has named it. A failure comes last; without it the
walk would have entered the same nodes and perhaps more. What is left is the tree without all that
was detached on the way. -/
theorem detaching_walk_enters (built : Reachable t) (visit : Visitor σ ε) (s : σ) :
    let w := run visit s t
    let log := log visit s t
    run (noted visit) (s, []) t = ⟨(w.state, log), w.tree, w.error⟩ ∧
      (entered log).head? = some 0 ∧ (entered log).Nodup ∧
      (entered log).Sublist t.documentOrder ∧
      (∀ id, id ≠ 0 → (id ∈ entered log ↔
        (∃ e ∈ log, (t.node id).parent = some e.id ∧ e.verdict = .descend) ∧
          ∀ e ∈ log, e.id ∈ t.ahead id → e.verdict.failure? = none ∧ id ∉ e.detach)) ∧
      (∀ front e back, log = front ++ e :: back → e.verdict.failure? ≠ none → back = []) ∧
      w.error = log.getLast?.bind (·.verdict.failure?) ∧ w.tree = t.detachAll (gone log) ∧
      ∀ mild : Visitor σ ε,
        (∀ s t id, (visit s t id).verdict.failure? = none → mild s t id = visit s t id) →
          entered log <+: entered (Walk.log mild s t) := by
  intro w log
  have wf := wellFormed_of_reachable built
  have order : (entered log).Sublist t.documentOrder := entered_sublist wf visit s
  have noted := run_noted visit s t
  have course := run_eq_turns wf visit s
  have found : log = (turns visit t (s, []) t.documentOrder).2 := log_eq_turns wf visit s
  have last := failure_last visit t t.documentOrder (s, []) (by simp)
  rw [← found] at last
  have ended := noted.symm.trans course
  refine ⟨noted, ?_, (documentOrder_nodup wf).sublist order, order,
    fun id below => entered_iff wf visit s below, last, ?_, ?_, ?_⟩
  · rw [found, documentOrder, subtree_eq wf, turns_cons, turn_due rfl]
    obtain ⟨new, noted_new, -⟩ := turns_log visit t
      (Walk.noted visit (s, []) (t.detachAll []) 0).state ((t.children 0).flatMap t.subtree)
    change (entered (turns visit t (Walk.noted visit (s, []) (t.detachAll []) 0).state _).2).head? =
      some 0
    rw [noted_new, noted_log]
    rfl
  · rw [← failure?_last last, found]
    exact congrArg Walk.error ended
  · rw [found]
    exact congrArg Walk.tree ended
  · intro mild alike
    rw [found, log_eq_turns wf mild s]
    exact turns_prefix alike _ _

def scripted (rules : List (Entry ε)) : Visitor Unit ε := fun _ _ id =>
  match rules.find? (·.id == id) with
  | some e => { state := (), detach := e.detach, verdict := e.verdict }
  | none => { state := (), verdict := .descend }

def lenient (visit : Visitor σ ε) : Visitor σ ε := fun s t id =>
  match (visit s t id).verdict with
  | .fail _ => { visit s t id with verdict := .prune }
  | .descend | .prune => visit s t id

theorem lenient_alike (visit : Visitor σ ε) (s : σ) (t : Tree) (id : Nat)
    (sound : (visit s t id).verdict.failure? = none) : lenient visit s t id = visit s t id := by
  rw [lenient]
  cases verdict : (visit s t id).verdict with
  | fail e => simp [verdict, Verdict.failure?] at sound
  | descend => rfl
  | prune => rfl

def felledPage : Template :=
  .root [
    .container [
      .element .html "ul" [] [.element .html "li" [] [] 2 none] 1 none,
      .element .html "ol" [] [] 3 none] 0,
    .container [
      .other (some "if") none [] 5,
      .element .custom "app-row" [] [.element .html "p" [] [] 7 none] 6 none] 4,
    .element .html "hr" [] [] 8 none,
    .element .html "br" [] [] 9 none]

def fellingRules : List (Entry String) :=
  [⟨2, [1, 4], .descend⟩, ⟨5, [8], .descend⟩, ⟨6, [2], .prune⟩, ⟨9, [9, 10], .fail "hr"⟩]

/-- The child of the list is entered although all above it has been detached; what was named before
its turn is not, nor is anything behind the failure. -/
theorem felledPage_entered :
    let t := ofTemplate felledPage
    let visit := scripted fellingRules
    Reachable t ∧ entered (log visit () t) = [0, 1, 2, 3, 5, 6, 7, 9] ∧
      (run visit () t).error = some "hr" ∧
      (run visit () t).tree = t.detachAll [1, 4, 8, 2, 9, 10] ∧
      [0, 1, 2, 3, 5, 6, 7, 9] <+: entered (log (lenient visit) () t) := by
  intro t visit
  have built : Reachable t := reachable_ofTemplate felledPage
  have order : t.documentOrder = [0, 1, 2, 3, 4, 5, 6, 7, 8, 9, 10] :=
    (documentOrder_ofTemplate felledPage).trans (by decide)
  have noted : log visit () t = [⟨0, [], .descend⟩, ⟨1, [], .descend⟩, ⟨2, [1, 4], .descend⟩,
      ⟨3, [], .descend⟩, ⟨5, [8], .descend⟩, ⟨6, [2], .prune⟩, ⟨7, [], .descend⟩,
      ⟨9, [9, 10], .fail "hr"⟩] := by
    rw [log_eq_turns (wellFormed_of_reachable built), order]
    decide +kernel
  obtain ⟨-, -, -, -, -, -, error, tree, milder⟩ := detaching_walk_enters built visit ()
  have further := milder (lenient visit) (lenient_alike visit)
  rw [noted] at error tree further ⊢
  exact ⟨built, rfl, error, tree, further⟩

end Walk

end TemplateWiring
