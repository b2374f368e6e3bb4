import TemplateWiring.Proofs.Tree.Leaving
import TemplateWiring.Template.Walk

/-! Walks of visitors that look at nothing but the node they are shown and detach nothing but that
node. Such a walk is a sweep over a listing of the tree as it was at the start, however much leaves
the tree on the way. -/

namespace TemplateWiring.Walk

open TemplateWiring.Tree

variable {σ ε : Type}

/-- A visitor that judges a node by its content and takes out that node only. It goes on below the
kinds that `passes` accepts, and below no other. -/
structure Local (passes : NodeKind → Bool) (visit : Visitor σ ε) : Prop where
  reads : ∀ s (t u : Tree) id, (t.node id).content = (u.node id).content →
    visit s t id = visit s u id
  descends : ∀ s (t : Tree) id, passes (t.node id).kind = true →
    (visit s t id).verdict = .descend ∧ (visit s t id).detach = []
  stops : ∀ s (t : Tree) id, passes (t.node id).kind = false → (visit s t id).verdict ≠ .descend
  detaches : ∀ s (t : Tree) id, ∀ other ∈ (visit s t id).detach, other = id

/-- Where a sweep stands: the state, the nodes taken out in turn, and the error that ended it. -/
structure Swept (σ ε : Type) where
  state : σ
  gone : List Nat
  error : Option ε := none

def sweep (visit : Visitor σ ε) (t : Tree) (s : σ) (gone : List Nat) : List Nat → Swept σ ε
  | [] => ⟨s, gone, none⟩
  | id :: ids =>
    let v := visit s t id
    match v.verdict with
    | .fail e => ⟨v.state, gone ++ v.detach, some e⟩
    | .prune | .descend => sweep visit t v.state (gone ++ v.detach) ids

def Swept.walk (w : Swept σ ε) (t : Tree) : Walk σ ε := ⟨w.state, t.detachAll w.gone, w.error⟩

variable {visit : Visitor σ ε} {t : Tree} {passes : NodeKind → Bool}

theorem sweep_append (s : σ) (gone first second : List Nat) :
    sweep visit t s gone (first ++ second) =
      let w := sweep visit t s gone first
      match w.error with
      | some _ => w
      | none => sweep visit t w.state w.gone second := by
  induction first generalizing s gone with
  | nil => rfl
  | cons id rest ih =>
      rw [List.cons_append, sweep, sweep]
      cases (visit s t id).verdict with
      | fail e => rfl
      | prune => exact ih _ _
      | descend => exact ih _ _

theorem sweep_cons (s : σ) (gone : List Nat) (id : Nat) (rest : List Nat)
    (ok : (sweep visit t s gone (id :: rest)).error = none) :
    sweep visit t s gone (id :: rest) =
      sweep visit t (visit s t id).state (gone ++ (visit s t id).detach) rest := by
  rw [sweep] at ok ⊢
  cases verdict : (visit s t id).verdict with
  | fail e => simp [verdict] at ok
  | prune => rfl
  | descend => rfl

structure StopsAt (visit : Visitor σ ε) (t : Tree) (s : σ) (gone before : List Nat) (id : Nat)
    (e : ε) (ended : Swept σ ε) : Prop where
  ok : (sweep visit t s gone before).error = none
  verdict : (visit (sweep visit t s gone before).state t id).verdict = .fail e
  ended : ended =
    ⟨(visit (sweep visit t s gone before).state t id).state, (sweep visit t s gone before).gone ++
      (visit (sweep visit t s gone before).state t id).detach, some e⟩

theorem StopsAt.cons {s : σ} {gone before : List Nat} {first id : Nat} {e : ε}
    {ended : Swept σ ε} (through : ∀ e, (visit s t first).verdict ≠ .fail e)
    (stops : StopsAt visit t (visit s t first).state (gone ++ (visit s t first).detach) before id e
      ended) : StopsAt visit t s gone (first :: before) id e ended := by
  have unfolded : sweep visit t s gone (first :: before) =
      sweep visit t (visit s t first).state (gone ++ (visit s t first).detach) before := by
    rw [sweep]
    cases verdict : (visit s t first).verdict with
    | fail e => exact absurd verdict (through e)
    | prune => rfl
    | descend => rfl
  obtain ⟨ok, verdict, ended⟩ := stops
  rw [← unfolded] at ok verdict ended
  exact ⟨ok, verdict, ended⟩

theorem sweep_failed {s : σ} {gone ids : List Nat} {e : ε}
    (failed : (sweep visit t s gone ids).error = some e) :
    ∃ before id after, ids = before ++ id :: after ∧
      StopsAt visit t s gone before id e (sweep visit t s gone ids) := by
  induction ids generalizing s gone with
  | nil => cases failed
  | cons id rest ih =>
      rw [sweep] at failed ⊢
      cases verdict : (visit s t id).verdict with
      | fail other =>
          rw [verdict] at failed
          cases failed
          exact ⟨[], id, rest, rfl, rfl, verdict, rfl⟩
      | prune =>
          rw [verdict] at failed
          obtain ⟨before, last, after, split, stops⟩ := ih failed
          exact ⟨id :: before, last, after, congrArg (id :: ·) split,
            stops.cons (by simp [verdict])⟩
      | descend =>
          rw [verdict] at failed
          obtain ⟨before, last, after, split, stops⟩ := ih failed
          exact ⟨id :: before, last, after, congrArg (id :: ·) split,
            stops.cons (by simp [verdict])⟩

theorem sweep_congr (loc : Local passes visit) {u : Tree} (ids : List Nat)
    (same : ∀ id ∈ ids, (u.node id).content = (t.node id).content) (s : σ) (gone : List Nat) :
    sweep visit u s gone ids = sweep visit t s gone ids := by
  induction ids generalizing s gone with
  | nil => rfl
  | cons id rest ih =>
      have tail := ih fun other member => same other (List.mem_cons_of_mem _ member)
      rw [sweep, sweep, loc.reads s u t id (same id List.mem_cons_self)]
      cases (visit s t id).verdict with
      | fail e => rfl
      | prune => exact tail _ _
      | descend => exact tail _ _

theorem gone_sweep (loc : Local passes visit) (s : σ) (gone ids : List Nat) :
    ∀ id ∈ (sweep visit t s gone ids).gone, id ∈ gone ∨ id ∈ ids := by
  induction ids generalizing s gone with
  | nil => exact fun id found => .inl found
  | cons first rest ih =>
      have own (id : Nat) (found : id ∈ gone ++ (visit s t first).detach) :
          id ∈ gone ∨ id ∈ first :: rest := by
        rcases List.mem_append.mp found with old | new
        · exact .inl old
        · rw [loc.detaches s t first id new]
          exact .inr List.mem_cons_self
      have later (id : Nat) (found : id ∈ (sweep visit t (visit s t first).state
          (gone ++ (visit s t first).detach) rest).gone) : id ∈ gone ∨ id ∈ first :: rest := by
        rcases ih _ _ id found with old | new
        · exact own id old
        · exact .inr (List.mem_cons_of_mem _ new)
      rw [sweep]
      cases (visit s t first).verdict with
      | fail e => exact own
      | prune => exact later
      | descend => exact later

theorem enterAll_eq_sweep (wf : WellFormed t) (loc : Local passes visit) {id : Nat}
    (enters : ∀ child ∈ t.children id, ∀ s gone,
      (∀ other ∈ listing passes t child, other ∉ gone) →
        enter visit t.size s (t.detachAll gone) child =
          (sweep visit t s gone (listing passes t child)).walk t)
    (children : List Nat) (own : children.Sublist (t.children id)) (s : σ) (gone : List Nat)
    (apart : ∀ other ∈ children.flatMap (listing passes t), other ∉ gone) :
    enterAll visit t.size s (t.detachAll gone) id children =
      (sweep visit t s gone (children.flatMap (listing passes t))).walk t := by
  induction children generalizing s gone with
  | nil => simp [enterAll, sweep, Swept.walk]
  | cons child rest ih =>
      have member : child ∈ t.children id := own.subset List.mem_cons_self
      have later : rest.Sublist (t.children id) := (List.sublist_cons_self child rest).trans own
      have bounds := And.intro (wf.child_above member) (wf.child_inside member)
      -- The child is still as it was: what has left so far stands outside its listing.
      have apart_child : ∀ other ∈ listing passes t child, other ∉ gone := by
        intro other found
        exact apart other (List.mem_flatMap.mpr ⟨child, List.mem_cons_self, found⟩)
      have present : (t.detachAll gone).isDetached child = false := by
        have stays := apart_child child (mem_listing_self child)
        simp [detached_detachAll, wf.child_present member, stays]
      rw [enterAll, if_neg (by simp [present]), dif_pos bounds,
        enters child member s gone apart_child, List.flatMap_cons, sweep_append]
      cases failed : (sweep visit t s gone (listing passes t child)).error with
      | some e => simp [Swept.walk, failed]
      | none =>
          simp only [Swept.walk, failed]
          apply ih later
          intro other found taken
          rcases gone_sweep loc s gone _ other taken with old | new
          · refine apart other ?_ old
            rw [List.flatMap_cons]
            exact List.mem_append_right _ found
          · obtain ⟨second, among, below⟩ := List.mem_flatMap.mp found
            have distinct := (wf.children_nodup id).sublist own
            have ne : child ≠ second := by
              intro same
              exact (List.nodup_cons.mp distinct).1 (same ▸ among)
            exact listing_disjoint wf member (later.subset among) ne other new below

theorem enter_eq_sweep (wf : WellFormed t) (loc : Local passes visit) (id : Nat) :
    ∀ s gone, (∀ other ∈ listing passes t id, other ∉ gone) →
      enter visit t.size s (t.detachAll gone) id =
        (sweep visit t s gone (listing passes t id)).walk t := by
  induction id using wf.induction with
  | step id ih =>
      intro s gone apart
      have seen : visit s (t.detachAll gone) id = visit s t id :=
        loc.reads s _ _ id (content_detachAll t gone id)
      rw [enter, listing_eq wf, seen, ← detachAll_append]
      cases through : passes (t.node id).kind with
      | true =>
          obtain ⟨goes_on, takes_none⟩ := loc.descends s t id through
          rw [sweep, goes_on, takes_none, List.append_nil, if_pos rfl]
          have apart_below :
              ∀ other ∈ (t.children id).flatMap (listing passes t), other ∉ gone := by
            intro other found
            apply apart
            rw [listing_eq wf, if_pos through]
            exact List.mem_cons_of_mem _ found
          have untouched : (t.detachAll gone).children id = t.children id := by
            rw [wf.children_detachAll, List.filter_eq_self]
            intro child member
            have below : child ∈ (t.children id).flatMap (listing passes t) :=
              List.mem_flatMap.mpr ⟨child, member, mem_listing_self child⟩
            simpa using apart_below child below
          simp only [untouched]
          exact enterAll_eq_sweep wf loc ih _ (List.Sublist.refl _) _ _ apart_below
      | false =>
          have ends := loc.stops s t id through
          rw [if_neg (by simp), sweep]
          cases verdict : (visit s t id).verdict with
          | fail e => rfl
          | prune => rfl
          | descend => exact absurd verdict ends

/-- A walk of a local visitor shows it the listing of the tree from the root, as it was before. -/
theorem run_eq_sweep (wf : WellFormed t) (loc : Local passes visit) (s : σ) :
    run visit s t = (sweep visit t s [] (listing passes t 0)).walk t :=
  enter_eq_sweep wf loc 0 s [] (fun _ _ => List.not_mem_nil)

end TemplateWiring.Walk
