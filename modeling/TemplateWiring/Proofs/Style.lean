import TemplateWiring.Style
import TemplateWiring.Proofs.Text.Parts

/-! Style tags. A tag is taken out of the template when it carries a block and nothing stands in the
way of the block: no computed language anywhere, and no attribute of another name in front of a
block. Of what stands behind the last block, and of the blocks behind the first one, nothing is
kept. -/

namespace TemplateWiring

namespace Attr

def HasBlock (attrs : List Attr) : Prop := ∃ b ∈ attrs, b.isBlock = true

def ComputesLanguage (a : Attr) : Prop := a.name = "class" ∧ ∀ language, a.value ≠ .text language

def Foreign (a : Attr) : Prop := a.isBlock = false ∧ a.name ≠ "class"

/-- An attribute stands in the way of the block, given the attributes behind it. -/
def Obstructs (a : Attr) (behind : List Attr) : Prop :=
  a.ComputesLanguage ∨ a.Foreign ∧ HasBlock behind

def Unobstructed : List Attr → Prop
  | [] => True
  | a :: behind => ¬ a.Obstructs behind ∧ Unobstructed behind

def SingleBlock (attrs : List Attr) : Prop :=
  (attrs.filter isBlock).length = 1 ∧ ∀ a ∈ attrs, a.isBlock = true ∨ a.name = "class"

theorem hasBlock_cons {a : Attr} {attrs : List Attr} :
    HasBlock (a :: attrs) ↔ a.isBlock = true ∨ HasBlock attrs := by
  simp [HasBlock]

theorem hasBlock_append {front back : List Attr} :
    HasBlock (front ++ back) ↔ HasBlock front ∨ HasBlock back := by
  simp only [HasBlock, List.mem_append, or_and_right, exists_or]

theorem isBlock_of_not {attrs : List Attr} {a : Attr} (bare : ¬ HasBlock attrs)
    (member : a ∈ attrs) : a.isBlock = false := by
  apply Bool.eq_false_iff.mpr
  intro block
  exact bare ⟨a, member, block⟩

theorem not_block_of_class {a : Attr} (named : a.name = "class") : a.isBlock = false := by
  rw [isBlock, named]
  rfl

theorem unobstructed_or (attrs : List Attr) :
    Unobstructed attrs ∨
      ∃ front a behind,
        attrs = front ++ a :: behind ∧ Unobstructed behind ∧ a.Obstructs behind := by
  induction attrs with
  | nil => exact .inl trivial
  | cons a rest ih =>
      rcases ih with clear | ⟨front, last, behind, rfl, clear, obstructs⟩
      · by_cases obstructs : a.Obstructs rest
        · exact .inr ⟨[], a, rest, rfl, clear, obstructs⟩
        · exact .inl ⟨obstructs, clear⟩
      · exact .inr ⟨a :: front, last, behind, rfl, clear, obstructs⟩

/-- Up to its last block, an unobstructed list holds blocks and languages only. -/
theorem Unobstructed.front {front behind : List Attr} (clear : Unobstructed (front ++ behind))
    (block : HasBlock behind) : ∀ a ∈ front, a.isBlock = true ∨ a.name = "class" := by
  induction front with
  | nil => simp
  | cons first front ih =>
      have later : HasBlock (front ++ behind) := hasBlock_append.mpr (.inr block)
      have fits : first.isBlock = true ∨ first.name = "class" := by
        apply Decidable.byContradiction
        intro neither
        rw [not_or, Bool.not_eq_true] at neither
        exact clear.1 (.inr ⟨neither, later⟩)
      simpa using ⟨fits, ih clear.2⟩

theorem Unobstructed.language {attrs : List Attr} (clear : Unobstructed attrs) :
    ∀ a ∈ attrs, a.name = "class" → ∃ language, a.value = .text language := by
  induction attrs with
  | nil => simp
  | cons first rest ih =>
      intro a member named
      rcases List.mem_cons.mp member with rfl | later
      · apply Classical.byContradiction
        intro computed
        exact clear.1 (.inl ⟨named, fun language written => computed ⟨language, written⟩⟩)
      · exact ih clear.2 a later named

theorem HasBlock.last {attrs : List Attr} (block : HasBlock attrs) :
    ∃ front b back, attrs = front ++ b :: back ∧ b.isBlock = true ∧ ¬ HasBlock back := by
  induction attrs with
  | nil => simp [HasBlock] at block
  | cons a rest ih =>
      by_cases later : HasBlock rest
      · rcases ih later with ⟨front, b, back, rfl, found, last⟩
        exact ⟨a :: front, b, back, rfl, found, last⟩
      · rcases hasBlock_cons.mp block with found | found
        · exact ⟨[], a, rest, rfl, found, later⟩
        · exact absurd found later

theorem length_filter_isBlock {attrs : List Attr} :
    (attrs.filter isBlock).length = 0 ↔ ¬ HasBlock attrs := by
  simp [HasBlock, List.filter_eq_nil_iff]

theorem singleBlock_iff {front back : List Attr} {b : Attr} (block : b.isBlock = true)
    (last : ¬ HasBlock back) (before : ∀ a ∈ front, a.isBlock = true ∨ a.name = "class") :
    SingleBlock (front ++ b :: back) ↔ ¬ HasBlock front ∧ ∀ a ∈ back, a.name = "class" := by
  have count : ((front ++ b :: back).filter isBlock).length =
      (front.filter isBlock).length + 1 := by
    have none_behind : back.filter isBlock = [] := by simpa [HasBlock] using last
    simp [block, none_behind]
  have behind : (∀ a ∈ back, a.isBlock = true ∨ a.name = "class") ↔
      ∀ a ∈ back, a.name = "class" := by
    refine forall₂_congr fun a member => ?_
    simp [isBlock_of_not last member]
  rw [SingleBlock, count, Nat.add_eq_right, length_filter_isBlock, ← behind]
  simp only [List.mem_append, List.mem_cons, or_imp, forall_and, forall_eq, block]
  constructor
  · rintro ⟨first, -, -, rest⟩
    exact ⟨first, rest⟩
  · rintro ⟨first, rest⟩
    exact ⟨first, before, .inl trivial, rest⟩

end Attr

namespace Style

open Attr

/-- The language of a tag: the value of its first `class`. -/
inductive Names : List Attr → String → Prop
  | first (front back : List Attr) (language : String)
      (before : ∀ a ∈ front, a.name ≠ "class") :
      Names (front ++ ⟨"class", .text language⟩ :: back) language
  | none {attrs : List Attr} (absent : ∀ a ∈ attrs, a.name ≠ "class") : Names attrs defaultLanguage

/-- What is inside a block. The closing brace may be missing. -/
inductive Inside : List Char → List Char → Prop
  | closed (inner : List Char) : Inside ('{' :: (inner ++ ['}'])) inner
  | opened (inner : List Char) (unclosed : inner.getLast? ≠ some '}') : Inside ('{' :: inner) inner

theorem inside_unbrace {a : Attr} (block : a.isBlock = true) :
    Inside a.name.toList (unbrace a.name) := by
  rw [unbrace]
  cases written : a.name.toList with
  | nil => simp [isBlock, written] at block
  | cons c inner =>
      have opening : c = '{' := by simpa [isBlock, written] using block
      subst opening
      have rest : Text.after? ['{'] ('{' :: inner) = some inner := Text.after?_eq_some.mpr rfl
      simp only [rest, Option.getD_some]
      cases closing : Text.before? ['}'] inner with
      | some code =>
          rw [Text.before?_eq_some.mp closing]
          exact .closed code
      | none =>
          refine .opened inner fun last => ?_
          rcases List.getLast?_eq_some_iff.mp last with ⟨code, rfl⟩
          rw [Text.before?_eq_some.mpr rfl] at closing
          cases closing

def AttrValue.text? : AttrValue → Option String
  | .text value => some value
  | .code _ | .bare => none

def language? (attrs : List Attr) : Option String :=
  attrs.findSome? fun a => if a.name = "class" then AttrValue.text? a.value else none

def code? (attrs : List Attr) : Option (List Char) :=
  (attrs.find? isBlock).map fun b => unbrace b.name

theorem code?_cons (a : Attr) (attrs : List Attr) :
    code? (a :: attrs) = if a.isBlock then some (unbrace a.name) else code? attrs := by
  cases block : a.isBlock <;> simp [code?, block]

theorem language?_cons (a : Attr) (attrs : List Attr) :
    language? (a :: attrs) =
      if a.name = "class" then (AttrValue.text? a.value).or (language? attrs)
      else language? attrs := by
  by_cases named : a.name = "class"
  · cases value : a.value <;> simp [language?, named, value, AttrValue.text?]
  · simp [language?, named]

theorem code?_isSome {attrs : List Attr} : (code? attrs).isSome = true ↔ HasBlock attrs := by
  simp [code?, HasBlock]

theorem code?_eq_none {attrs : List Attr} : code? attrs = none ↔ ¬ HasBlock attrs := by
  rw [← code?_isSome, Bool.not_eq_true, Option.isSome_eq_false_iff, Option.isNone_iff_eq_none]

theorem code?_append {front back : List Attr} {b : Attr} (first : ¬ HasBlock front)
    (block : b.isBlock = true) : code? (front ++ b :: back) = some (unbrace b.name) := by
  have before : front.find? isBlock = none := by
    simpa [HasBlock] using first
  simp [code?, before, block]

/-- With nothing in the way, attributes are read to their first language and first block. -/
theorem readAttrs_behind {behind : List Attr} (clear : Unobstructed behind) (rest : List Attr)
    (language : String) :
    readAttrs (behind.reverse ++ rest) language none =
      readAttrs rest ((language? behind).getD language) (code? behind) := by
  induction behind generalizing rest with
  | nil => rfl
  | cons a behind ih =>
      rw [List.reverse_cons, List.append_assoc, List.singleton_append, ih clear.2, readAttrs,
        code?_cons, language?_cons]
      by_cases block : a.isBlock = true
      · have unnamed : a.name ≠ "class" := fun named => by
          rw [not_block_of_class named] at block
          cases block
        rw [if_pos block, if_pos block, if_neg unnamed]
      · rw [if_neg block, if_neg block]
        by_cases named : a.name = "class"
        · rcases clear.language a (by simp) named with ⟨written, value⟩
          simp [named, value, AttrValue.text?]
        · have unread : ¬ (code? behind).isSome = true := by
            rw [code?_isSome]
            exact fun later => clear.1 (.inr ⟨⟨by simpa using block, named⟩, later⟩)
          rw [if_neg named, if_neg named, if_neg unread]

theorem readAttrs_unobstructed {attrs : List Attr} (clear : Unobstructed attrs) :
    readAttrs attrs.reverse defaultLanguage none =
      match code? attrs with
      | some code => .block ((language? attrs).getD defaultLanguage) code
      | none => .plain := by
  have read := readAttrs_behind clear [] defaultLanguage
  rw [List.append_nil] at read
  rw [read]
  cases code? attrs <;> rfl

theorem readAttrs_obstructed {front behind : List Attr} {a : Attr} (clear : Unobstructed behind)
    (obstructs : a.Obstructs behind) :
    readAttrs (front ++ a :: behind).reverse defaultLanguage none =
      if a.name = "class" then .plain else .unsupported a.name := by
  rw [List.reverse_append, List.reverse_cons, List.append_assoc, readAttrs_behind clear,
    List.singleton_append, readAttrs]
  rcases obstructs with ⟨named, computed⟩ | ⟨⟨bare, other⟩, later⟩
  · rw [if_neg (by simp [not_block_of_class named]), if_pos named, if_pos named]
    cases value : a.value with
    | text language => exact absurd value (computed language)
    | code source => rfl
    | bare => rfl
  · rw [if_neg (by simp [bare]), if_neg other, if_neg other, if_pos (code?_isSome.mpr later)]

theorem names_language {attrs : List Attr} (clear : Unobstructed attrs) :
    Names attrs ((language? attrs).getD defaultLanguage) := by
  induction attrs with
  | nil => exact .none (by simp)
  | cons a rest ih =>
      rw [language?_cons]
      by_cases named : a.name = "class"
      · rcases clear.language a (by simp) named with ⟨written, value⟩
        rcases a with ⟨name, old⟩
        cases named
        cases value
        exact .first [] rest written (by simp)
      · rw [if_neg named]
        generalize (language? rest).getD defaultLanguage = language at ih
        cases ih clear.2 with
        | first front back _ before =>
            exact .first (a :: front) back language (by simpa [named] using before)
        | none absent => exact .none (by simpa [named] using absent)

def unsupportedText (name : String) : String :=
  "Unsupported attribute on the component style tag: " ++ name

def Filled (n : Node) : Prop := ∃ text ∈ n.body, text ≠ ""

theorem filled_iff {n : Node} : Filled n ↔ n.body.any (· ≠ "") = true := by
  cases body : n.body <;> simp [Filled, body]

variable {t : Tree} {id : Nat} {d : Document}

theorem step_filled (filled : Filled (t.node id)) : step t id d = (t, d, .skipped) := by
  simp only [step, extract, read, filled_iff.mp filled, if_true]
  rfl

theorem step_empty (empty : ¬ Filled (t.node id)) :
    step t id d =
      match readAttrs (t.node id).attrs.reverse defaultLanguage none with
      | .plain => (t, d, .skipped)
      | .unsupported name =>
        (t, d.reportNode Code.styleAttribute (unsupportedText name) id (t.node id).pos, .diagnosed)
      | .block language code =>
        (t.detach id, d.addDependency (.style (dependency d language code)), .applied) := by
  rw [filled_iff] at empty
  simp only [step, extract, read, empty]
  cases readAttrs (t.node id).attrs.reverse defaultLanguage none <;> rfl

/-- What becomes of a style tag. One with something written between its tags stays. Otherwise its
attributes are read from the last to the first, and the first of them in the way decides: behind a
computed language the tag stays, behind an attribute of another name that comes before a block it is
reported by that name. With nothing in the way it is taken for its first block, if it has any, in
the language of its first `class`. -/
theorem step_decided (t : Tree) (id : Nat) (d : Document) :
    let n := t.node id
    (Filled n → step t id d = (t, d, .skipped)) ∧
      (¬ Filled n →
        (∀ front a behind, n.attrs = front ++ a :: behind → Unobstructed behind →
          (a.ComputesLanguage → step t id d = (t, d, .skipped)) ∧
          (a.Foreign → HasBlock behind →
            step t id d =
              (t,
                { d with
                  diagnostics := d.diagnostics ++ [
                    { code := Code.styleAttribute
                      message := unsupportedText a.name
                      rule := Code.rule Code.styleAttribute
                      file := d.filename
                      pos := n.pos
                      node := some id }] },
                .diagnosed))) ∧
        (Unobstructed n.attrs → ¬ HasBlock n.attrs → step t id d = (t, d, .skipped)) ∧
        (Unobstructed n.attrs → ∀ front b back, n.attrs = front ++ b :: back →
          ¬ HasBlock front → b.isBlock = true →
            ∃ language inner code,
              Names n.attrs language ∧ Inside b.name.toList inner ∧ Text.Trims inner code ∧
              step t id d =
                (t.detach id,
                  { d with
                    dependencies := d.dependencies ++ [.style
                      { language := language
                        code := String.ofList code
                        virtualPath := "./" ++ d.basename ++ "." ++ language
                        path := "./" ++ d.basename }] },
                  .applied))) ∧
      (Unobstructed n.attrs ∨
        ∃ front a behind, n.attrs = front ++ a :: behind ∧ Unobstructed behind ∧
          a.Obstructs behind) := by
  intro n
  refine ⟨step_filled, fun empty => ⟨?_, ?_, ?_⟩, unobstructed_or n.attrs⟩
  · intro front a behind split clear
    constructor
    · intro computes
      rw [step_empty empty, split, readAttrs_obstructed clear (.inl computes), if_pos computes.1]
    · intro foreign later
      rw [step_empty empty, split, readAttrs_obstructed clear (.inr ⟨foreign, later⟩),
        if_neg foreign.2]
      rfl
  · intro clear blockless
    rw [step_empty empty, readAttrs_unobstructed clear, code?_eq_none.mpr blockless]
  · intro clear front b back split first block
    have code : code? n.attrs = some (unbrace b.name) := by
      rw [split]
      exact code?_append first block
    refine ⟨_, _, _, names_language clear, inside_unbrace block, Text.trims_trim _, ?_⟩
    rw [step_empty empty, readAttrs_unobstructed clear, code]
    rfl

def styleTree (attrs : List Attr) : Tree :=
  .ofTemplate (.root [.element .html "style" attrs [] 40 none])

def stylePage : Document := { filename := "/app/index.marko" }

def ruleBlock : Attr := ⟨"\x7b .a \x7b\x7d \x7d", .bare⟩

def media : Attr := ⟨"media", .text "print"⟩

def lessAttrs : List Attr :=
  [⟨"class", .text "less"⟩, ruleBlock, ⟨"class", .text "css"⟩, ⟨"\x7b .b", .bare⟩, media]

/-- Two blocks and two languages, with another attribute behind them, are taken for the first block
in the first language. The same attribute in front of them is reported. -/
theorem lessTag_decided :
    (∃ language inner code,
      Names lessAttrs language ∧ Inside ruleBlock.name.toList inner ∧ Text.Trims inner code ∧
      step (styleTree lessAttrs) 1 stylePage =
        ((styleTree lessAttrs).detach 1,
          { stylePage with
            dependencies := [.style
              { language := language
                code := String.ofList code
                virtualPath := "./index.marko." ++ language
                path := "./index.marko" }] },
          .applied)) ∧
      step (styleTree (media :: lessAttrs)) 1 stylePage =
        (styleTree (media :: lessAttrs),
          { stylePage with
            diagnostics := [
              { code := Code.styleAttribute
                message := unsupportedText "media"
                rule := Code.rule Code.styleAttribute
                file := "/app/index.marko"
                pos := 40
                node := some 1 }] },
          .diagnosed) := by
  have basename : "./" ++ stylePage.basename = "./index.marko" := by decide +kernel
  have clear : Unobstructed lessAttrs := by
    simp [lessAttrs, media, ruleBlock, Unobstructed, Obstructs, ComputesLanguage, Foreign, HasBlock,
      isBlock]
  have empty (attrs : List Attr) : ¬ Filled ((styleTree attrs).node 1) := by
    rintro ⟨text, written, -⟩
    cases written
  obtain ⟨-, decided, -⟩ := step_decided (styleTree lessAttrs) 1 stylePage
  obtain ⟨-, -, taken⟩ := decided (empty lessAttrs)
  obtain ⟨-, decided, -⟩ := step_decided (styleTree (media :: lessAttrs)) 1 stylePage
  obtain ⟨obstructed, -⟩ := decided (empty (media :: lessAttrs))
  rw [basename] at taken
  constructor
  · exact taken clear [⟨"class", .text "less"⟩] ruleBlock _ rfl
      (by simp [HasBlock, isBlock]) rfl
  · exact (obstructed [] media lessAttrs rfl clear).2 ⟨rfl, by decide⟩
      ⟨ruleBlock, by simp [lessAttrs], rfl⟩

theorem unobstructed_of_applied {t : Tree} {id : Nat} {d : Document}
    (applied : (step t id d).2.2 = .applied) :
    Unobstructed (t.node id).attrs ∧ ∃ language inner, code? (t.node id).attrs = some inner ∧
      (step t id d).2.1 = d.addDependency (.style (dependency d language inner)) := by
  by_cases filled : Filled (t.node id)
  · rw [step_filled filled] at applied
    cases applied
  · rw [step_empty filled] at applied ⊢
    rcases unobstructed_or (t.node id).attrs with clear | obstructed
    · rw [readAttrs_unobstructed clear] at applied ⊢
      cases code : code? (t.node id).attrs with
      | none =>
          rw [code] at applied
          cases applied
      | some inner => exact ⟨clear, _, inner, rfl, rfl⟩
    · rcases obstructed with ⟨front, a, behind, split, clear, obstructs⟩
      rw [split, readAttrs_obstructed clear obstructs] at applied
      by_cases named : a.name = "class"
      · rw [if_pos named] at applied
        cases applied
      · rw [if_neg named] at applied
        cases applied

/-- What leaves the template with a tag that is taken. Only its first block is kept. Everything up
to the last block is a block or a language, but nothing is reported of the further blocks, nor of
what stands behind the last one: nothing is lost if and only if there is no further block and only
languages stand behind it. -/
theorem taken_tag_drops (t : Tree) (id : Nat) (d : Document)
    (applied : (step t id d).2.2 = .applied) :
    ∃ front b back, (t.node id).attrs = front ++ b :: back ∧ b.isBlock = true ∧
      ¬ HasBlock back ∧ (∀ a ∈ front, a.isBlock = true ∨ a.name = "class") ∧
      (∃ language inner, code? (t.node id).attrs = some inner ∧
        (step t id d).2.1 = d.addDependency (.style (dependency d language inner))) ∧
      (SingleBlock (t.node id).attrs ↔ ¬ HasBlock front ∧ ∀ a ∈ back, a.name = "class") := by
  rcases unobstructed_of_applied applied with ⟨clear, language, inner, code, document⟩
  have blocks : HasBlock (t.node id).attrs := code?_isSome.mp (by rw [code]; rfl)
  rcases blocks.last with ⟨front, b, back, split, block, last⟩
  have before : ∀ a ∈ front, a.isBlock = true ∨ a.name = "class" := by
    rw [split] at clear
    exact clear.front (hasBlock_cons.mpr (.inl block))
  refine ⟨front, b, back, split, block, last, before, ⟨language, inner, code, document⟩, ?_⟩
  rw [split]
  exact singleBlock_iff block last before

def plainAttrs : List Attr := [⟨"class", .text "less"⟩, ruleBlock]

theorem plainTag_keeps_all :
    (step (styleTree plainAttrs) 1 stylePage).2.2 = .applied ∧ SingleBlock plainAttrs ∧
      ∃ language inner, code? plainAttrs = some inner ∧
        (step (styleTree plainAttrs) 1 stylePage).2.1 =
          stylePage.addDependency (.style (dependency stylePage language inner)) := by
  have applied : (step (styleTree plainAttrs) 1 stylePage).2.2 = .applied := by decide
  obtain ⟨-, -, -, -, -, -, -, kept, -⟩ :=
    taken_tag_drops (styleTree plainAttrs) 1 stylePage applied
  refine ⟨applied, ⟨by decide, ?_⟩, kept⟩
  simp [plainAttrs, ruleBlock, isBlock]

theorem printTag_loses_media :
    let attrs := [ruleBlock, media]
    let (t, d, outcome) := step (styleTree attrs) 1 stylePage
    outcome = .applied ∧ t.isDetached 1 = true ∧ d.diagnostics = [] ∧ ¬ SingleBlock attrs := by
  refine ⟨by decide, by decide, by decide, ?_⟩
  rintro ⟨-, only⟩
  have other := only media (by simp)
  revert other
  decide

end Style

end TemplateWiring
