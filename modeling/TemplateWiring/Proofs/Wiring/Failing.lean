import TemplateWiring.Proofs.Behavior
import TemplateWiring.Proofs.Inline
import TemplateWiring.Proofs.Roots.Leavers
import TemplateWiring.Proofs.Sibling.Precedence
import TemplateWiring.Proofs.Wiring.Course

/-! How a run can fail, and what it leaves. The run is written out once more with every write made
at once and none taken back, so that what a failure leaves behind can be seen; no write turns out
to come before a failure of its own step. -/

namespace TemplateWiring

namespace Sibling

/-- Registers one file after the other. What has been written stays when one is refused. -/
def adoptEach (base dir : String) (d : Document) : List String → Document × Option Failure
  | [] => (d, none)
  | name :: names =>
    match adopt base dir d name with
    | .ok d => adoptEach base dir d names
    | .error e => (d, some e)

def scanInPlace (folder : Folder) (base : String) (d : Document) : Document × Option Failure :=
  match folder.list d.folder with
  | .error e => (d, some e)
  | .ok names => adoptEach base d.folder d names.reverse

theorem adoptEach_eq (base dir : String) (d : Document) (names : List String) :
    adoptEach base dir d names = (names.foldl (settle base dir) d, none) := by
  induction names generalizing d with
  | nil => rfl
  | cons name rest ih =>
      rw [adoptEach, adopt_eq]
      exact ih _

theorem scanInPlace_unread {folder : Folder} {d : Document} {e : Failure} (base : String)
    (unreadable : folder.list d.folder = .error e) :
    scanInPlace folder base d = (d, some e) ∧ Sibling.scan folder base d = .error e := by
  unfold scanInPlace Sibling.scan
  rw [unreadable]
  exact ⟨rfl, rfl⟩

theorem scanInPlace_read {folder : Folder} {d : Document} {names : List String} (base : String)
    (readable : folder.list d.folder = .ok names) :
    scanInPlace folder base d = (settleAll base d.folder d names, none) := by
  unfold scanInPlace
  rw [readable]
  dsimp only
  rw [adoptEach_eq, List.foldl_reverse]
  rfl

theorem scan_eq_inPlace (folder : Folder) (base : String) (d : Document) :
    Sibling.scan folder base d =
      match scanInPlace folder base d with
      | (scanned, none) => .ok scanned
      | (_, some e) => .error e := by
  cases readable : folder.list d.folder with
  | error e =>
      obtain ⟨inPlace, scan⟩ := scanInPlace_unread base readable
      rw [inPlace, scan]
  | ok names => rw [scanInPlace_read base readable, scan_eq base readable]

theorem scanInPlace_failed {folder : Folder} {base : String} {d after : Document} {e : Failure}
    (failed : scanInPlace folder base d = (after, some e)) :
    (∃ path cause, e = .directoryRead path cause) ∧ after = d := by
  cases readable : folder.list d.folder with
  | error cause =>
      rw [(scanInPlace_unread base readable).1] at failed
      cases failed
      rw [Folder.list] at readable
      split at readable
      · cases readable
      · cases readable
        exact ⟨⟨_, _, rfl⟩, rfl⟩
  | ok names =>
      rw [scanInPlace_read base readable] at failed
      cases failed

end Sibling

namespace Roots

open TemplateWiring.Tree

def leaveConverted (s : Search) (id : Nat) :
    Document × Except Failure Outcome → Visit Search Failure
  | (document, .ok outcome) =>
    { state := ⟨document, s.roots⟩, detach := outcome.leaving id, verdict := .prune }
  | (document, .error e) => { state := ⟨document, s.roots⟩, verdict := .fail e }

/-- The search with every write of a class made at once. -/
def visitInPlace : Visitor Search Failure := fun s t id =>
  let n := t.node id
  if n.kind == .other && n.isTag "class" then
    let object := Behavior.ofClass (n.opening.getD "") s.document.options.createHookName
    leaveConverted s id (Inline.convertInPlace object n id s.document)
  else visit s t id

theorem visitInPlace_eq : visitInPlace = visit := by
  funext s t id
  rw [visitInPlace]
  cases held : (t.node id).kind == .other && (t.node id).isTag "class" with
  | false => rfl
  | true =>
      simp only [Bool.and_eq_true, beq_iff_eq] at held
      rw [if_pos rfl]
      simp only [Inline.convertInPlace_eq, visit, held.1, visitOther, held.2, if_true,
        Inline.convert]
      cases Inline.convertTo (Behavior.ofClass ((t.node id).opening.getD "")
        s.document.options.createHookName) (t.node id) id s.document with
      | error e => rfl
      | ok converted => rfl

theorem step_of_fail {s : Search} {n : Node} {id : Nat} {v : Visit Search Failure} {e : Failure}
    (step : Step s n id v) (failed : v.verdict = .fail e) :
    n.kind = .other ∧ n.isTag "class" = true ∧ e.concernsMember = true ∧
      v = { state := s, verdict := .fail e } := by
  cases step with
  | fatal failure kind tag found =>
      cases failed
      exact ⟨kind, tag, Behavior.member_of_ofClass found, rfl⟩
  | _ => cases failed

end Roots

namespace Wiring

open TemplateWiring.Tree

def runInPlace (folder : Folder) (t : Tree) (d : Document) : Wiring :=
  match Sibling.baseName? d.filename d.options.templateExtension with
  | none => ⟨t, d, .ok .skipped⟩
  | some base =>
    match Sibling.scanInPlace folder base d with
    | (scanned, some e) => ⟨t, scanned, .error e⟩
    | (scanned, none) =>
      let w := Walk.run Roots.visitInPlace { document := scanned } t
      match w.error with
      | some e => ⟨w.tree, w.state.document, .error e⟩
      | none =>
        let (tree, document, decision) := Binding.bind w.tree w.state.document w.state.roots
        ⟨tree, document, .ok (.completed w.state.roots decision)⟩

theorem runInPlace_eq (folder : Folder) (t : Tree) (d : Document) :
    runInPlace folder t d = run folder t d := by
  rw [runInPlace, run, Roots.visitInPlace_eq]
  cases Sibling.baseName? d.filename d.options.templateExtension with
  | none => rfl
  | some base =>
      dsimp only
      rw [Sibling.scan_eq_inPlace]
      cases scanned : Sibling.scanInPlace folder base d with
      | mk document failure =>
          cases failure with
          | none => rfl
          | some e => rw [(Sibling.scanInPlace_failed scanned).2]

/-- Where a search of a tree fails: at a class that is still linked, with what the nodes before it
have come to and no more. -/
theorem collect_failed {t : Tree} {d : Document} {e : Failure} (wf : WellFormed t)
    (failed : (Roots.collect t d).error = some e) :
    ∃ before id after, t.frontier = before ++ id :: after ∧
      (t.node id).kind = .other ∧ (t.node id).isTag "class" = true ∧ e.concernsMember = true ∧
      (Roots.collect t d).tree.Linked id ∧
      let w := Walk.sweep Roots.visit t { document := d } [] before
      w.error = none ∧ (Roots.collect t d).tree = t.detachAll w.gone ∧
        (Roots.collect t d).state = w.state := by
  rw [Roots.collect_eq_sweep wf] at failed ⊢
  obtain ⟨before, id, after, split, stops⟩ := Walk.sweep_failed failed
  obtain ⟨ok, verdict, ended⟩ := stops
  have step := Roots.visit_step (Walk.sweep Roots.visit t { document := d } [] before).state t id
  obtain ⟨kind, tag, member, still⟩ := Roots.step_of_fail step verdict
  have leaving := Roots.sweep_leaving before { document := d } [] ok
  refine ⟨before, id, after, split, kind, tag, member, ?_⟩
  generalize Walk.sweep Roots.visit t { document := d } [] before = w at ok ended still leaving ⊢
  rw [still] at ended
  dsimp only at ended leaving
  rw [List.append_nil] at ended
  refine ⟨?_, ok, ?_, ?_⟩
  · have stays : id ∉ w.gone := by
      intro left
      have distinct := frontier_nodup wf
      rw [split] at distinct
      have earlier := (leaving.not_root left).1
      exact (List.nodup_append.mp distinct).2.2 id earlier id List.mem_cons_self rfl
    rw [ended]
    exact linked_of_stays wf (fun other left => (leaving.not_root left).2.1) (by simp [split]) stays
  · rw [ended]
    rfl
  · rw [ended]
    rfl

/-- A run fails where the folder cannot be read, and has written nothing then, or at a member of a
class, and has written what the nodes before that class come to. No write is followed by a failure
of its own step, since all of this holds with every write made at once. -/
theorem run_failures (folder : Folder) (t : Tree) (d : Document) (built : Reachable t) :
    runInPlace folder t d = run folder t d ∧
      (∀ base scanned e, Sibling.scanInPlace folder base d = (scanned, some e) →
        (∃ path cause, e = .directoryRead path cause) ∧ scanned = d) ∧
      ∀ e, (run folder t d).report = .error e →
        ((∃ path cause, e = .directoryRead path cause) ∧
          (run folder t d).tree = t ∧ (run folder t d).document = d) ∨
        (((∃ member, e = .nonMethodMember member) ∨
            ∃ member reason, e = .unsupportedMember member reason) ∧
          ∃ base scanned before id after,
            Sibling.baseName? d.filename d.options.templateExtension = some base ∧
            Sibling.scanInPlace folder base d = (scanned, none) ∧
            t.frontier = before ++ id :: after ∧
            (t.node id).kind = .other ∧ (t.node id).isTag "class" = true ∧
            (run folder t d).tree.Linked id ∧
            let w := Walk.sweep Roots.visit t { document := scanned } [] before
            w.error = none ∧ (run folder t d).tree = t.detachAll w.gone ∧
              (run folder t d).document = w.state.document) := by
  refine ⟨runInPlace_eq folder t d, fun base scanned e => Sibling.scanInPlace_failed, ?_⟩
  intro e failed
  have wf := wellFormed_of_reachable built
  have course := run_course folder t d
  generalize run folder t d = w at course failed ⊢
  cases course with
  | skipped => cases failed
  | unread base other named scan =>
      cases failed
      rw [Sibling.scan_eq_inPlace] at scan
      split at scan
      · cases scan
      next unread =>
        cases scan
        exact .inl ⟨(Sibling.scanInPlace_failed unread).1, rfl, rfl⟩
  | stopped base scanned other named scan found =>
      cases failed
      obtain ⟨before, id, after, split, kind, tag, member, linked, ok, tree, state⟩ :=
        collect_failed wf found
      rw [Sibling.scan_eq_inPlace] at scan
      split at scan
      next inPlace =>
        cases scan
        refine .inr ⟨?_, base, scanned, before, id, after, named, inPlace, split, kind, tag, linked,
          ok, tree, congrArg Roots.Search.document state⟩
        cases e with
        | nonMethodMember name => exact .inl ⟨name, rfl⟩
        | unsupportedMember name reason => exact .inr ⟨name, reason, rfl⟩
        | _ => cases member
      · cases scan
  | completed => cases failed

def halfwayPage : Template :=
  .root [
    .other (some "class") (some "class { onClick() {} }") [] 0,
    .element .html "style" [⟨"{ .a {} }", .bare⟩] [] 23 none,
    .container [.other (some "class") (some "class { total = 1; }") [] 41] 40]

def inlineDocument : Document where
  filename := "/srv/site/index.marko"
  component := some (.inline "marko_component" "/srv/site/index.marko" "./index.marko")
  constants := [⟨"marko_component", "\x7b\x7d"⟩]

/-- The class before has found its place beside the inline module, and stays converted. -/
theorem halfwayPage_failure :
    let t := ofTemplate halfwayPage
    let w := run (Folder.working "/srv/site") t inlineDocument
    runInPlace (Folder.working "/srv/site") t inlineDocument = w ∧
      w.report = .error (.nonMethodMember "field `total`") ∧ w.tree.Linked 4 ∧
      w.tree = t.detachAll [1, 2] ∧ w.document.constants.length = 2 ∧
      w.document.component = inlineDocument.component := by
  intro t w
  have built : Reachable t := reachable_ofTemplate halfwayPage
  have wf := wellFormed_of_reachable built
  have scan : Sibling.scan (Folder.working "/srv/site") "index" inlineDocument =
      .ok inlineDocument := by decide +kernel
  have frontier : t.frontier = [0, 1, 2, 3, 4] :=
    (frontier_ofTemplate halfwayPage).trans (by decide +kernel)
  have swept : (Walk.sweep Roots.visit t { document := inlineDocument } [] [0, 1, 2, 3, 4]).error =
        some (.nonMethodMember "field `total`") ∧
      (Walk.sweep Roots.visit t { document := inlineDocument } [] [0, 1, 2, 3, 4]).gone = [1, 2] ∧
      (Walk.sweep Roots.visit t { document := inlineDocument } []
        [0, 1, 2, 3, 4]).state.document.constants.length = 2 ∧
      (Walk.sweep Roots.visit t { document := inlineDocument } []
        [0, 1, 2, 3, 4]).state.document.component = inlineDocument.component := by
    decide +kernel
  obtain ⟨failed, gone, constants, component⟩ := swept
  have ran := run_of_failure wf (by decide +kernel) scan frontier failed
  have report : w.report = .error (.nonMethodMember "field `total`") := congrArg Wiring.report ran
  have tree : w.tree = t.detachAll [1, 2] := by
    rw [← gone]
    exact congrArg Wiring.tree ran
  have document := congrArg Wiring.document ran
  obtain ⟨inPlace, -, failures⟩ := run_failures (Folder.working "/srv/site") t inlineDocument built
  refine ⟨inPlace, report, ?_, tree, ?_, ?_⟩
  · rcases failures _ report with ⟨⟨path, cause, unread⟩, -⟩ | ⟨-, stopped⟩
    · cases unread
    · obtain ⟨base, scanned, before, id, after, -, -, split, kind, -, linked, -⟩ := stopped
      have classes : id = 1 ∨ id = 4 := by
        have kinds : ∀ id ∈ [0, 1, 2, 3, 4], (t.node id).kind = .other → id = 1 ∨ id = 4 := by
          decide +kernel
        exact kinds id (frontier ▸ split ▸ by simp) kind
      rcases classes with rfl | rfl
      · change w.tree.Linked 1 at linked
        rw [tree] at linked
        cases linked with
        | child _ _ member =>
            rw [wf.children_detachAll] at member
            simp at member
      · exact linked
  · exact (congrArg (·.constants.length) document).trans constants
  · exact (congrArg (·.component) document).trans component

end Wiring

end TemplateWiring
