import Mathlib.Data.List.Nodup
import TemplateWiring.Proofs.Roots.Reports

/-! What a search reports, held against what its steps answer. A step that answers that its node is
diagnosed has added one report, and nothing else adds any. -/

namespace TemplateWiring.Roots

open TemplateWiring.Tree

/-- A node that is handed to a step: a style tag, unless it binds itself, or a class. -/
def isHanded (o : Options) (n : Node) : Bool :=
  n.kind == .element && !bindsItself o n && n.isTag "style" || n.kind == .other && n.isTag "class"

/-- What the step on a node answers. A node that is handed to no step has no answer, and neither has
a class that ends the search. -/
def answer? (t : Tree) (d : Document) (id : Nat) : Option Outcome :=
  let n := t.node id
  if n.kind == .element && !bindsItself d.options n && n.isTag "style" then
    some (Style.step t id d).2.2
  else if n.kind == .other && n.isTag "class" then
    (Inline.step t id d).toOption.map fun done => done.2.2
  else none

structure Noted where
  search : Search
  answers : List (Nat × Outcome) := []
  deriving DecidableEq, Repr

def visitNoting : Visitor Noted Failure := fun s t id =>
  let v := visit s.search t id
  let answer := answer? t s.search.document id
  { state := ⟨v.state, s.answers ++ (answer.map (id, ·)).toList⟩
    detach := v.detach, verdict := v.verdict }

def collectNoting (t : Tree) (d : Document) : Walk Noted Failure :=
  Walk.run visitNoting { search := { document := d } } t

def diagnosed (answers : List (Nat × Outcome)) : List Nat :=
  (answers.filter (·.2 = .diagnosed)).map (·.1)

def leavers (answers : List (Nat × Outcome)) : List Nat := answers.flatMap fun a => a.2.leaving a.1

section step

variable {t : Tree} {d : Document} {s : Search} {id : Nat} {v : Visit Search Failure}

/-- How a visit agrees with the answer of the step it stands for. -/
inductive Answering (t : Tree) (d : Document) (id : Nat) (v : Visit Search Failure) : Prop
  | unasked (silent : answer? t d id = none) (passed : isHanded d.options (t.node id) = false)
      (detach : v.detach = []) (clean : complaint? d (t.node id) id = none)
  | answered (outcome : Outcome) (answer : answer? t d id = some outcome)
      (handed : isHanded d.options (t.node id) = true) (detach : v.detach = outcome.leaving id)
      (complaint : (complaint? d (t.node id) id).isSome = decide (outcome = .diagnosed))
  | failed (failure : Failure) (verdict : v.verdict = .fail failure)

theorem unasked_of_kind (element : (t.node id).kind ≠ .element) (other : (t.node id).kind ≠ .other)
    (detach : v.detach = []) : Answering t d id v := by
  refine .unasked ?_ ?_ detach ?_
  · simp [answer?, element, other]
  · simp [isHanded, element, other]
  · simp [complaint?, element, other]

theorem answered_style {outcome : Outcome} (kind : (t.node id).kind = .element)
    (free : bindsItself d.options (t.node id) = false) (tag : (t.node id).isTag "style" = true)
    (answer : (Style.extract (t.node id) id d).2 = outcome) (detach : v.detach = outcome.leaving id)
    (complaint : (styleComplaint? d (t.node id) id).isSome = decide (outcome = .diagnosed)) :
    Answering t d id v := by
  refine .answered outcome ?_ ?_ detach ?_
  · rw [← answer]
    simp [answer?, kind, free, tag, Style.step]
  · simp [isHanded, kind, free, tag]
  · rw [complaint?_of_style kind free tag]
    exact complaint

theorem answered_class {after : Document} {outcome : Outcome} (kind : (t.node id).kind = .other)
    (tag : (t.node id).isTag "class" = true)
    (answer : Inline.convert (t.node id) id d = .ok (after, outcome))
    (detach : v.detach = outcome.leaving id)
    (complaint : (classComplaint? d (t.node id) id).isSome = decide (outcome = .diagnosed)) :
    Answering t d id v := by
  have told : answer? t d id = some outcome := by
    have done : Inline.step t id d = .ok (t.detachAll (outcome.leaving id), after, outcome) := by
      delta Inline.step
      rw [answer]
    simp only [answer?, kind, tag, done]
    rfl
  refine .answered outcome told ?_ detach ?_
  · simp [isHanded, kind, tag]
  · rw [complaint?_of_class kind tag]
    exact complaint

theorem answer_step (step : Step s (t.node id) id v) : Answering t s.document id v := by
  cases step with
  | wrapper kind =>
      apply unasked_of_kind _ _ rfl <;> intro other <;> simp [other, NodeKind.isWrapper] at kind
  | custom kind => exact unasked_of_kind (by simp [kind]) (by simp [kind]) rfl
  | bound kind own =>
      exact .unasked (by simp [answer?, own, kind]) (by simp [isHanded, own, kind]) rfl
        (by simp [complaint?, own, kind])
  | element kind free tag =>
      exact .unasked (by simp [answer?, kind, tag]) (by simp [isHanded, kind, tag]) rfl
        (by simp [complaint?, kind, tag])
  | plainStyle kind free tag reading =>
      exact answered_style kind free tag (by rw [Style.extract, reading]) rfl
        (by rw [styleComplaint?, reading]; rfl)
  | refusedStyle name kind free tag reading =>
      exact answered_style kind free tag (by rw [Style.extract, reading]) rfl
        (by rw [styleComplaint?, reading]; rfl)
  | takenStyle language code kind free tag reading =>
      exact answered_style kind free tag (by rw [Style.extract, reading]) rfl
        (by rw [styleComplaint?, reading]; rfl)
  | bystander kind tag =>
      exact .unasked (by simp [answer?, kind, tag]) (by simp [isHanded, kind, tag]) rfl
        (by simp [complaint?, kind, tag])
  | malformed complaint offset kind tag found =>
      refine answered_class kind tag (by rw [Inline.convert, found]; rfl) rfl ?_
      rw [classComplaint?, found]
      cases offset <;> rfl
  | derived kind tag found =>
      exact answered_class kind tag (by rw [Inline.convert, found]; rfl) rfl
        (by rw [classComplaint?, found]; rfl)
  | fatal failure kind tag found => exact .failed failure rfl
  | conflict object other kind tag found taken =>
      exact answered_class kind tag (by rw [Inline.convert, found, Inline.convertTo, taken]) rfl
        (by rw [classComplaint?, found, objectComplaint?, taken]; rfl)
  | installed object kind tag found vacant =>
      exact answered_class kind tag (by rw [Inline.convert, found, Inline.convertTo, vacant]) rfl
        (by rw [classComplaint?, found, objectComplaint?, vacant]; rfl)

end step

theorem outcome_step (t : Tree) (id : Nat) (d : Document) :
    (Inline.step t id d).toOption.map (fun done => done.2.2) =
      (Inline.convert (t.node id) id d).toOption.map (·.2) := by
  delta Inline.step
  cases Inline.convert (t.node id) id d with
  | error e => rfl
  | ok converted => rfl

/-- Answers, like visits, depend on what a node holds and not on where it hangs. -/
theorem answer?_content (t u : Tree) (d : Document) (id : Nat)
    (same : (t.node id).content = (u.node id).content) : answer? t d id = answer? u d id := by
  have style_blind (n : Node) : (Style.extract n id d).2 = (Style.extract n.content id d).2 := rfl
  have class_blind (n : Node) : Inline.convert n id d = Inline.convert n.content id d := rfl
  have style_test (n : Node) :
      (n.kind == .element && !bindsItself d.options n && n.isTag "style") =
        (n.content.kind == .element && !bindsItself d.options n.content &&
          n.content.isTag "style") := rfl
  have class_test (n : Node) : (n.kind == .other && n.isTag "class") =
      (n.content.kind == .other && n.content.isTag "class") := rfl
  simp only [answer?, outcome_step, Style.step]
  rw [style_test, class_test, style_blind, class_blind, same, ← style_test, ← class_test,
    ← style_blind, ← class_blind]

theorem noting_local : Walk.Local NodeKind.isWrapper visitNoting := by
  constructor
  · intro s t u id same
    rw [visitNoting, visitNoting, visit_local.reads s.search t u id same,
      answer?_content t u s.search.document id same]
  · exact fun s t id => visit_local.descends s.search t id
  · exact fun s t id => visit_local.stops s.search t id
  · exact fun s t id => visit_local.detaches s.search t id

theorem sweep_noting (t : Tree) (ids : List Nat) (s : Noted) (gone : List Nat) :
    let w := Walk.sweep visitNoting t s gone ids
    Walk.sweep visit t s.search gone ids = ⟨w.state.search, w.gone, w.error⟩ := by
  induction ids generalizing s gone with
  | nil => rfl
  | cons id rest ih =>
      have tail := ih (visitNoting s t id).state (gone ++ (visitNoting s t id).detach)
      have same : (visitNoting s t id).verdict = (visit s.search t id).verdict := rfl
      rw [Walk.sweep, Walk.sweep, same]
      cases (visit s.search t id).verdict with
      | fail e => rfl
      | prune => exact tail
      | descend => exact tail

theorem leavers_append (first second : List (Nat × Outcome)) :
    leavers (first ++ second) = leavers first ++ leavers second := List.flatMap_append

/-- The answers of a search of some nodes, and the reports that it has added. -/
structure Accounted (t : Tree) (o : Options) (ids : List Nat) (answers : List (Nat × Outcome))
    (reports : List Diagnostic) : Prop where
  handed : answers.map (·.1) = ids.filter fun id => isHanded o (t.node id)
  reports : List.Forall₂ (fun id x => Concerns (t.node id) id x) (diagnosed answers) reports

theorem Accounted.cons {t : Tree} {d : Document} {id : Nat} {rest : List Nat}
    {v : Visit Search Failure} {answers : List (Nat × Outcome)} {reports : List Diagnostic}
    (answering : Answering t d id v) (sound : ∀ e, v.verdict ≠ .fail e)
    (later : Accounted t d.options rest answers reports) :
    Accounted t d.options (id :: rest) (((answer? t d id).map (id, ·)).toList ++ answers)
        ((complaint? d (t.node id) id).toList ++ reports) ∧
      v.detach = leavers ((answer? t d id).map (id, ·)).toList := by
  obtain ⟨handed, concerned⟩ := later
  cases answering with
  | unasked silent passed detach clean =>
      rw [silent, clean]
      refine ⟨⟨?_, concerned⟩, detach⟩
      rw [List.filter_cons_of_neg (by simp [passed])]
      exact handed
  | answered outcome answer taken detach complaint =>
      rw [answer]
      refine ⟨⟨?_, ?_⟩, by simpa [leavers] using detach⟩
      · rw [List.filter_cons_of_pos (by simpa using taken), ← handed]
        rfl
      · cases found : complaint? d (t.node id) id with
        | none =>
            have other : outcome ≠ .diagnosed := by simpa [found] using complaint
            simpa [diagnosed, other] using concerned
        | some x =>
            have same : outcome = .diagnosed := by simpa [found] using complaint
            rw [same]
            exact .cons (concerns_of_complaint found) concerned
  | failed failure verdict => exact absurd verdict (sound failure)

theorem sweep_accounted {t : Tree} (ids : List Nat) (s : Noted) (gone : List Nat)
    (ok : (Walk.sweep visitNoting t s gone ids).error = none) :
    let w := Walk.sweep visitNoting t s gone ids
    ∃ answers reports, w.state.answers = s.answers ++ answers ∧ w.gone = gone ++ leavers answers ∧
      w.state.search.document.diagnostics = s.search.document.diagnostics ++ reports ∧
      Accounted t s.search.document.options ids answers reports := by
  induction ids generalizing s gone with
  | nil => exact ⟨[], [], by simp [Walk.sweep], by simp [Walk.sweep, leavers], by simp [Walk.sweep],
      rfl, .nil⟩
  | cons id rest ih =>
      have step := visit_step s.search t id
      have sound (e : Failure) : (visitNoting s t id).verdict ≠ .fail e := by
        intro failed
        simp [Walk.sweep, failed] at ok
      have unfolded := Walk.sweep_cons s gone id rest ok
      rw [unfolded] at ok ⊢
      obtain ⟨answers, reports, noted, left, reported, accounted⟩ := ih _ _ ok
      have options : (visitNoting s t id).state.search.document.options =
          s.search.document.options := options_step step
      rw [options] at accounted
      obtain ⟨accounted, detach⟩ := accounted.cons (answer_step step) sound
      refine ⟨_, _, ?_, ?_, ?_, accounted⟩
      · rw [noted]
        exact List.append_assoc ..
      · rw [left, leavers_append, ← detach, List.append_assoc]
        rfl
      · rw [reported]
        change (visit s.search t id).state.document.diagnostics ++ reports = _
        rw [diagnostics_step step, List.append_assoc]

theorem mem_leavers_answers {answers : List (Nat × Outcome)} {id : Nat} :
    id ∈ leavers answers ↔ (id, Outcome.applied) ∈ answers := by
  rw [leavers, List.mem_flatMap]
  constructor
  · rintro ⟨⟨other, outcome⟩, member, left⟩
    cases outcome with
    | applied => exact List.mem_singleton.mp left ▸ member
    | skipped => cases left
    | diagnosed => cases left
  · exact fun member => ⟨_, member, List.mem_singleton.mpr rfl⟩

theorem mem_diagnosed {answers : List (Nat × Outcome)} {id : Nat} :
    id ∈ diagnosed answers ↔ (id, Outcome.diagnosed) ∈ answers := by
  simp [diagnosed]

theorem not_wrapper_of_handed {o : Options} {n : Node} (handed : isHanded o n = true) :
    n.kind.isWrapper = false := by
  cases kind : n.kind <;> simp_all [isHanded, NodeKind.isWrapper]

theorem collectNoting_eq {t : Tree} (wf : WellFormed t) (d : Document) :
    collectNoting t d =
      (Walk.sweep visitNoting t { search := { document := d } } [] t.frontier).walk t :=
  Walk.run_eq_sweep wf noting_local _

theorem collect_noted {t : Tree} (wf : WellFormed t) (d : Document) : collect t d =
    ⟨(collectNoting t d).state.search, (collectNoting t d).tree, (collectNoting t d).error⟩ := by
  rw [collect_eq_sweep wf, collectNoting_eq wf,
    sweep_noting t t.frontier { search := { document := d } } []]
  rfl

/-- What a search that fails nowhere adds to the reports is one report for each style tag and each
class of the frontier that its step has answered to be diagnosed, in document order. The report is
on that node, and the node has stayed in the tree. -/
theorem diagnosed_nodes_reported (t : Tree) (d : Document) (built : Reachable t)
    (ok : (collect t d).error = none) :
    let noted := collectNoting t d
    let answers := noted.state.answers
    collect t d = ⟨noted.state.search, noted.tree, noted.error⟩ ∧
      answers.map (·.1) = t.frontier.filter (fun id => isHanded d.options (t.node id)) ∧
      ∃ reports, (collect t d).state.document.diagnostics = d.diagnostics ++ reports ∧
        List.Forall₂ (fun id x => Concerns (t.node id) id x) (diagnosed answers) reports ∧
        ∀ id ∈ diagnosed answers, (collect t d).tree.Linked id := by
  intro noted answers
  have wf := wellFormed_of_reachable built
  have same : collect t d = ⟨noted.state.search, noted.tree, noted.error⟩ := collect_noted wf d
  refine ⟨same, ?_⟩
  rw [same] at ok ⊢
  have found : noted = _ := collectNoting_eq wf d
  have ended : answers = noted.state.answers := rfl
  rw [ended]
  clear_value answers noted
  rw [found] at ok ⊢
  obtain ⟨new, reports, noted, left, reported, handed, concerned⟩ :=
    sweep_accounted t.frontier { search := { document := d } } [] ok
  generalize Walk.sweep visitNoting t { search := { document := d } } [] t.frontier = w at *
  rw [List.nil_append] at noted left
  dsimp only [Walk.Swept.walk] at *
  rw [noted, left]
  refine ⟨handed, reports, reported, concerned, ?_⟩
  -- Every answer is of a node of its own, so what is diagnosed has not left.
  have distinct : (new.map (·.1)).Nodup := handed ▸ (frontier_nodup wf).filter _
  have among (id : Nat) (outcome : Outcome) (answered : (id, outcome) ∈ new) :
      id ∈ t.frontier ∧ isHanded d.options (t.node id) = true := by
    have member : id ∈ new.map (·.1) := List.mem_map_of_mem answered
    rw [handed] at member
    simpa using List.mem_filter.mp member
  intro id answered
  have member := mem_diagnosed.mp answered
  refine linked_of_stays wf ?_ (among id _ member).1 ?_
  · intro other gone
    exact not_wrapper_of_handed (among other _ (mem_leavers_answers.mp gone)).2
  · intro gone
    have both := List.inj_on_of_nodup_map distinct member (mem_leavers_answers.mp gone) rfl
    cases both

/-- A class that breaks off close to the last position there is, a class without text, a text that
is no class, and a style tag that is refused. One class is taken and one style tag left alone. -/
def troubledPage : Template :=
  .root [
    .container [.other (some "class") (some "class \x7b") [] 4294967290] 1,
    .element .html "style" [⟨"media", .text "print"⟩, ⟨"{ .a {} }", .bare⟩] [] 20 none,
    .element .html "style" [] [] 30 none,
    .other (some "class") (some "") [] 40,
    .other (some "class") (some "class { onClick() {} }") [] 50,
    .other (some "class") (some "1") [] 60]

theorem troubledPage_reported :
    let t := ofTemplate troubledPage
    let d : Document := { filename := "index.marko" }
    let w := collect t d
    (collect t d).error = none ∧ diagnosed (collectNoting t d).state.answers = [2, 3, 5, 7] ∧
      leavers (collectNoting t d).state.answers = [6] ∧
      w.state.document.diagnostics.map (fun x => (x.node, x.pos)) =
        [(none, 4294967295), (some 3, 20), (none, 40), (some 7, 60)] ∧
      (∀ id ∈ [2, 3, 5, 7], w.tree.Linked id) ∧
      ∀ id x, (id, x) ∈ [2, 3, 5, 7].zip w.state.document.diagnostics →
        Concerns (t.node id) id x := by
  intro t d w
  have built : Reachable t := reachable_ofTemplate troubledPage
  have wf := wellFormed_of_reachable built
  have frontier : t.frontier = [0, 1, 2, 3, 4, 5, 6, 7] :=
    (frontier_ofTemplate troubledPage).trans (by decide +kernel)
  have noted := collectNoting_eq wf d
  rw [frontier] at noted
  have ran : (collectNoting t d).error = none ∧
      diagnosed (collectNoting t d).state.answers = [2, 3, 5, 7] ∧
      leavers (collectNoting t d).state.answers = [6] ∧
      (collectNoting t d).state.search.document.diagnostics.map (fun x => (x.node, x.pos)) =
        [(none, 4294967295), (some 3, 20), (none, 40), (some 7, 60)] := by
    rw [noted]
    decide +kernel
  obtain ⟨sound, named, left, places⟩ := ran
  have plain := collect_noted wf d
  have ok : (collect t d).error = none := by
    rw [plain]
    exact sound
  obtain ⟨same, handed, reports, reported, concerned, linked⟩ :=
    diagnosed_nodes_reported t d built ok
  rw [named] at concerned linked
  have all : w.state.document.diagnostics = reports := reported
  refine ⟨ok, named, left, ?_, linked, ?_⟩
  · change (collect t d).state.document.diagnostics.map _ = _
    rw [plain]
    exact places
  · rw [all]
    exact fun id x => (List.forall₂_iff_zip.mp concerned).2

end TemplateWiring.Roots
