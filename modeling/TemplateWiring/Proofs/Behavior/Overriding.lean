import Mathlib.Logic.Function.Basic
import TemplateWiring.Number.Spelling
import TemplateWiring.Proofs.Behavior.Entries

/-! Which methods of a class can still be reached in its object. A class tells methods apart by
their names and by whether they are static, and the constructor from all others. The object has
nothing but names, and there a property takes the place of an earlier one. -/

namespace TemplateWiring

open Script (Term MethodKind StringUnit)

/-- The name that a key stands for. A computed one is not known before it is run, and a private one
is no name of a property. -/
def Script.Term.propertyName? : Term → Option (List StringUnit)
  | .ident name => some (name.toList.map .char)
  | .string value => some value
  | .number (some value) => some (value.usual.map .char)
  | .number none => some ("Infinity".toList.map .char)
  | .bigint digits => some (digits.toList.map .char)
  | _ => none

namespace Behavior

def Paired (kind other : MethodKind) : Prop :=
  (kind = .getter ∧ other = .setter) ∨ (kind = .setter ∧ other = .getter)

instance (kind other : MethodKind) : Decidable (Paired kind other) :=
  inferInstanceAs (Decidable (_ ∨ _))

structure Property where
  kind : MethodKind
  name : Option (List StringUnit)
  deriving DecidableEq, Repr

/-- Two properties of one name that are not each other's counterpart. -/
def Property.Clashes (p q : Property) : Prop :=
  (∃ name ∈ p.name, q.name = some name) ∧ ¬ Paired p.kind q.kind

instance (p q : Property) : Decidable (p.Clashes q) := inferInstanceAs (Decidable (_ ∧ _))

def property? : Term → Option Property
  | .objectMethod kind _ _ key _ _ _ => some ⟨kind, key.propertyName?⟩
  | .placed _ member => property? member
  | _ => none

/-- The properties of an object that is given as text, if all of them are methods. -/
def properties? (object : String) : Option (List Property) :=
  match Script.parse ("(" ++ object ++ ")").toList with
  | .ok (.expr e :: _) =>
    match e.bare with
    | .object members _ => members.mapM property?
    | _ => none
  | _ => none

/-- The name that a method has when this text stands before its parameters. There is none for a
computed key, and none for a text that is no key. -/
def hookName? (hook : String) : Option (List StringUnit) :=
  match properties? ("\x7b" ++ hook ++ "() \x7b\x7d\x7d") with
  | some [⟨.plain, name⟩] => name
  | _ => none

/-- What an object has under one name, by the numbers of the properties that defined it. -/
structure Slot where
  method : Option Nat := none
  getter : Option Nat := none
  setter : Option Nat := none

namespace Slot

def held (s : Slot) : MethodKind → Option Nat
  | .plain | .constructor => s.method
  | .getter => s.getter
  | .setter => s.setter

/-- The name is defined once more. An accessor leaves its counterpart as it is; all else goes. -/
def define (s : Slot) (kind : MethodKind) (i : Nat) : Slot :=
  match kind with
  | .plain | .constructor => { method := some i }
  | .getter => { getter := some i, setter := s.setter }
  | .setter => { getter := s.getter, setter := some i }

theorem define_held (s : Slot) (kind : MethodKind) (i : Nat) :
    (s.define kind i).held kind = some i := by
  cases kind <;> rfl

theorem define_held_older (s : Slot) (kind other : MethodKind) {i j : Nat} (older : i ≠ j) :
    (s.define other j).held kind = some i ↔ s.held kind = some i ∧ Paired kind other := by
  cases kind <;> cases other <;> simp [define, held, Paired, older.symm]

end Slot

def extend (slots : List StringUnit → Slot) (i : Nat) (p : Property) : List StringUnit → Slot :=
  match p.name with
  | none => slots
  | some name => Function.update slots name ((slots name).define p.kind i)

def assemble (slots : List StringUnit → Slot) (first : Nat) :
    List Property → List StringUnit → Slot
  | [] => slots
  | p :: ps => assemble (extend slots first p) (first + 1) ps

/-- In the object with these properties, the one at `i` is found under its name. -/
def Reached (ps : List Property) (i : Nat) : Prop :=
  ∀ p ∈ ps[i]?, ∀ name ∈ p.name, (assemble (fun _ => {}) 0 ps name).held p.kind = some i

theorem extend_held_own (slots : List StringUnit → Slot) (i : Nat) {p : Property}
    {name : List StringUnit} (named : p.name = some name) :
    (extend slots i p name).held p.kind = some i := by
  simp [extend, named, Slot.define_held]

/-- One step: what was found before is found after it unless it clashes. -/
theorem extend_held (slots : List StringUnit → Slot) {i j : Nat} {p q : Property}
    {name : List StringUnit} (named : p.name = some name) (older : i ≠ j) :
    (extend slots j q name).held p.kind = some i ↔
      (slots name).held p.kind = some i ∧ ¬ p.Clashes q := by
  cases other : q.name with
  | none => simp [extend, Property.Clashes, other]
  | some taken =>
      by_cases same : name = taken
      · subst same
        simp [extend, Property.Clashes, named, other, Slot.define_held_older _ _ _ older]
      · simp [extend, Property.Clashes, named, other, Function.update_of_ne same, Ne.symm same]

theorem assemble_held (ps : List Property) {slots : List StringUnit → Slot} {i first : Nat}
    {p : Property} {name : List StringUnit} (named : p.name = some name) (older : i < first) :
    (assemble slots first ps name).held p.kind = some i ↔
      (slots name).held p.kind = some i ∧ ∀ q ∈ ps, ¬ p.Clashes q := by
  induction ps generalizing slots first with
  | nil => simp [assemble]
  | cons q ps ih =>
      rw [assemble, ih (by omega), extend_held slots named (by omega), List.forall_mem_cons,
        and_assoc]

theorem found_iff_pairwise (ps : List Property) (slots : List StringUnit → Slot) (first : Nat) :
    (∀ i, ∀ p ∈ ps[i]?, ∀ name ∈ p.name,
        (assemble slots first ps name).held p.kind = some (first + i)) ↔
      ps.Pairwise fun p q => ¬ p.Clashes q := by
  induction ps generalizing slots first with
  | nil => simp
  | cons p ps ih =>
      have head : (∀ name ∈ p.name,
          (assemble slots first (p :: ps) name).held p.kind = some first) ↔
            ∀ q ∈ ps, ¬ p.Clashes q := by
        cases named : p.name with
        | none => simp [Property.Clashes, named]
        | some name =>
            have found : (assemble (extend slots first p) (first + 1) ps name).held p.kind =
                some first ↔ _ := assemble_held ps named (Nat.lt_succ_self first)
            simpa [assemble, extend_held_own slots first named] using found
      have tail := ih (extend slots first p) (first + 1)
      rw [List.pairwise_cons, ← head, ← tail, ← Nat.and_forall_add_one]
      simp [assemble, Nat.add_assoc, Nat.add_comm 1]

theorem reached_iff_pairwise (ps : List Property) :
    (∀ i, Reached ps i) ↔ ps.Pairwise fun p q => ¬ p.Clashes q := by
  simpa [Reached] using found_iff_pairwise ps (fun _ => {}) 0

structure Outline where
  kind : MethodKind
  isStatic : Bool
  name : Option (List StringUnit)
  deriving DecidableEq, Repr

def Method.outline (m : Method) : Outline := ⟨m.kind, m.words.isStatic, m.key.propertyName?⟩

def members? (source : String) : Option (List Term) :=
  (Script.parse (wrapped source)).toOption.bind fun items => (leadingClass? items).map Prod.snd

def outlines? (source : String) : Option (List Outline) :=
  (members? source).bind fun members => (members.mapM method?).map (·.map Method.outline)

namespace Outline

/-- The names by which a class knows its methods, where the constructor's is its own. -/
inductive Label where
  | constructor
  | named (name : List StringUnit)
  deriving DecidableEq, Repr

def label? (o : Outline) : Option Label :=
  if o.kind = .constructor then some .constructor else o.name.map .named

def KeptApart (a b : Outline) : Prop :=
  a.isStatic ≠ b.isStatic ∨ ∃ l ∈ a.label?, ∃ l' ∈ b.label?, l ≠ l'

instance (a b : Outline) : Decidable (a.KeptApart b) := inferInstanceAs (Decidable (_ ∨ _))

def property (hook : String) (o : Outline) : Property :=
  if o.kind = .constructor then ⟨.plain, hookName? hook⟩ else ⟨o.kind, o.name⟩

/-- A static method and another one that have one name and are not each other's counterpart. -/
def Merges (a b : Outline) : Prop :=
  a.isStatic ≠ b.isStatic ∧ a.kind ≠ .constructor ∧ b.kind ≠ .constructor ∧
    (⟨a.kind, a.name⟩ : Property).Clashes ⟨b.kind, b.name⟩

instance (a b : Outline) : Decidable (a.Merges b) := inferInstanceAs (Decidable (_ ∧ _))

def Displaces (hook : String) (a b : Outline) : Prop :=
  ∃ name ∈ hookName? hook, (a.kind = .constructor ∧ b.kind ≠ .constructor ∧ b.name = some name) ∨
    (a.kind ≠ .constructor ∧ b.kind = .constructor ∧ a.name = some name)

instance (hook : String) (a b : Outline) : Decidable (a.Displaces hook b) :=
  inferInstanceAs (Decidable (∃ _ ∈ hookName? hook, _))

variable {hook : String} {a b : Outline}

theorem property_constructor (found : a.kind = .constructor) :
    a.property hook = ⟨.plain, hookName? hook⟩ := if_pos found

theorem property_other (other : a.kind ≠ .constructor) : a.property hook = ⟨a.kind, a.name⟩ :=
  if_neg other

/-- Of two methods that the class keeps apart, one takes the other's place in the object for two
reasons only. -/
theorem clashes_iff (apart : a.KeptApart b) (aOwn : a.kind = .constructor → a.isStatic = false)
    (bOwn : b.kind = .constructor → b.isStatic = false) :
    (a.property hook).Clashes (b.property hook) ↔ a.Merges b ∨ a.Displaces hook b := by
  by_cases aFound : a.kind = .constructor <;> by_cases bFound : b.kind = .constructor
  · exfalso
    simp [KeptApart, label?, aFound, bFound, aOwn, bOwn] at apart
  · rw [property_constructor aFound, property_other bFound]
    simp [Property.Clashes, Paired, Merges, Displaces, aFound, bFound]
  · rw [property_other aFound, property_constructor bFound]
    simp [Property.Clashes, Paired, Merges, Displaces, aFound, bFound, and_comm]
  · rw [property_other aFound, property_other bFound]
    have mixed (clash : (⟨a.kind, a.name⟩ : Property).Clashes ⟨b.kind, b.name⟩) :
        a.isStatic ≠ b.isStatic := by
      obtain ⟨⟨name, named, same⟩, -⟩ := clash
      simp only [Option.mem_def] at named same
      simpa [KeptApart, label?, aFound, bFound, named, same] using apart
    simp only [Merges, Displaces, aFound, bFound, ne_eq, not_false_eq_true, true_and, false_and,
      and_false, or_false, exists_false]
    exact ⟨fun clash => ⟨mixed clash, clash⟩, And.right⟩

end Outline

theorem members_of_converted {source hook object : String}
    (converted : ofClass source hook = .ok object) :
    ∃ members texts, members? source = some members ∧ (∀ m ∈ members, m.IsMember) ∧
      entries hook members = .ok texts ∧ serialize (objectText texts) = .ok object := by
  have answered : ∀ complaint offset,
      ofClass source hook ≠ .error (.malformed complaint offset) := by
    rw [converted]
    exact nofun
  obtain ⟨e, rest, decorators, name, parent, interfaces, members, parsed, bare⟩ :=
    starts_with_class answered
  have leading : leadingClass? (.expr e :: rest) = some (parent, members) := by
    simp only [leadingClass?, bare]
  obtain ⟨answer, real⟩ := leading_members hook parsed leading
  rw [answer, ofMembers] at converted
  split at converted
  · cases converted
  · split at converted
    · cases converted
    next texts read =>
      refine ⟨members, texts, ?_, real, read, converted⟩
      rw [members?, parsed]
      exact congrArg (Option.map Prod.snd) leading

theorem entries_eq_ok {hook : String} {members : List Term} {texts : List String}
    (read : entries hook members = .ok texts) :
    List.Forall₂ (fun member text => entry hook member = .ok text) members texts := by
  induction members generalizing texts with
  | nil =>
      cases read
      exact .nil
  | cons member rest ih =>
      rw [entries] at read
      split at read
      · cases read
      next text head =>
        split at read
        · cases read
        next others tail =>
          cases read
          exact .cons head (ih tail)

def Method.Opens (hook : String) (m : Method) (text : String) : Prop :=
  ∃ head behind, m.Heads hook head ∧ text = head ++ "(" ++ behind

theorem constructor_instance {member : Term} {m : Method} (real : member.IsMember)
    (found : method? member = some m) (kind : m.kind = .constructor) :
    m.words.isStatic = false := by
  induction real with
  | method decorators words kind isAsync isGenerator key params body text own =>
      cases found
      exact own kind
  | field | staticBlock => cases found
  | noted comments real ih => exact ih found

theorem exists_method {hook text : String} {member : Term} (real : member.IsMember)
    (read : entry hook member = .ok text) :
    ∃ m, method? member = some m ∧ m.Opens hook text := by
  rcases takenOver_or_refused hook real with ⟨_, m, found, shown, -⟩ | ⟨e, refused⟩
  · refine ⟨m, found, ?_⟩
    obtain ⟨behind, opens⟩ := entryParams_opens m.text
    rw [entry_of_method found, shown, opens] at read
    cases read
    exact ⟨_, behind ++ " " ++ m.text.body, heads_entryHead hook m,
      by simp only [String.append_assoc]⟩
  · rw [entry_of_refused refused] at read
    cases read

theorem exists_methods {hook : String} {members : List Term} {texts : List String}
    (real : ∀ m ∈ members, m.IsMember)
    (read : List.Forall₂ (fun member text => entry hook member = .ok text) members texts) :
    ∃ methods, members.mapM method? = some methods ∧
      List.Forall₂ (Method.Opens hook) methods texts ∧
      ∀ m ∈ methods, m.kind = .constructor → m.words.isStatic = false := by
  induction read with
  | nil => exact ⟨[], rfl, .nil, by simp⟩
  | cons head _ ih =>
      rw [List.forall_mem_cons] at real
      obtain ⟨m, found, opens⟩ := exists_method real.1 head
      obtain ⟨methods, others, behind, own⟩ := ih real.2
      refine ⟨m :: methods, by simp [found, others], .cons opens behind, ?_⟩
      rw [List.forall_mem_cons]
      exact ⟨constructor_instance real.1 found, own⟩

/-- What is lost when a class becomes an object. Its members become properties in their order, each
under its own key, but for the constructor, which has the hook's. Methods that the class keeps apart
clash in the object for two reasons: a static method has the name of another one, or a method has
the name that the constructor is given. Where a class keeps all its methods apart, each of them is
found in the object if and only if no two of its methods are such a pair. -/
theorem reached_iff_distinct {source hook object : String}
    (converted : ofClass source hook = .ok object) :
    ∃ members methods texts, members? source = some members ∧
      members.mapM method? = some methods ∧ List.Forall₂ (Method.Opens hook) methods texts ∧
      serialize (objectText texts) = .ok object ∧
      let outlines := methods.map Method.outline
      (∀ a ∈ outlines, ∀ b ∈ outlines, a.KeptApart b →
        ((a.property hook).Clashes (b.property hook) ↔ a.Merges b ∨ a.Displaces hook b)) ∧
      (outlines.Pairwise Outline.KeptApart →
        ((∀ i, Reached (outlines.map (Outline.property hook)) i) ↔
          outlines.Pairwise fun a b => ¬ a.Merges b ∧ ¬ a.Displaces hook b)) := by
  obtain ⟨members, texts, found, real, read, serialized⟩ := members_of_converted converted
  obtain ⟨methods, listed, opens, own⟩ := exists_methods real (entries_eq_ok read)
  have reasons : ∀ a ∈ methods.map Method.outline, ∀ b ∈ methods.map Method.outline,
      a.KeptApart b →
        ((a.property hook).Clashes (b.property hook) ↔ a.Merges b ∨ a.Displaces hook b) := by
    simp only [List.forall_mem_map]
    exact fun m here n there apart => Outline.clashes_iff apart (own m here) (own n there)
  refine ⟨members, methods, texts, found, listed, opens, serialized, reasons, fun apart => ?_⟩
  rw [reached_iff_pairwise, List.pairwise_map]
  have alike : ∀ {a b : Outline}, a ∈ methods.map Method.outline →
      b ∈ methods.map Method.outline →
      (a.KeptApart b ∧ ¬ (a.property hook).Clashes (b.property hook) ↔
        a.KeptApart b ∧ ¬ a.Merges b ∧ ¬ a.Displaces hook b) :=
    fun here there => and_congr_right fun apart => by rw [reasons _ here _ there apart, not_or]
  simpa only [List.pairwise_and_iff, apart, true_and] using List.Pairwise.iff_of_mem alike

example :
    ofClass "class \x7b constructor() \x7b\x7d onCreate() \x7b\x7d \x7d" "onCreate" =
      .ok "\x7b\n\tonCreate() \x7b\x7d,\n\tonCreate() \x7b\x7d\n\x7d" := by
  decide +kernel

def word (text : String) : Option (List StringUnit) := some (text.toList.map .char)

def makerClass : String :=
  "class \x7b constructor() \x7b\x7d static make() \x7b\x7d load() \x7b\x7d \x7d"

def makerOutlines : List Outline :=
  [⟨.constructor, false, word "constructor"⟩, ⟨.plain, true, word "make"⟩,
    ⟨.plain, false, word "load"⟩]

theorem makerClass_reached :
    ∃ object, ofClass makerClass "onCreate" = .ok object ∧
      outlines? makerClass = some makerOutlines ∧
      properties? object = some (makerOutlines.map (Outline.property "onCreate")) ∧
      ∀ i, Reached (makerOutlines.map (Outline.property "onCreate")) i := by
  have converted : ofClass makerClass "onCreate" =
      .ok "\x7b\n\tonCreate() \x7b\x7d,\n\tmake() \x7b\x7d,\n\tload() \x7b\x7d\n\x7d" := by
    decide +kernel
  have drawn : outlines? makerClass = some makerOutlines := by decide +kernel
  refine ⟨_, converted, drawn, by decide +kernel, ?_⟩
  obtain ⟨members, methods, texts, found, listed, -, -, -, reached⟩ :=
    reached_iff_distinct converted
  have same : methods.map Method.outline = makerOutlines := by
    rw [outlines?, found, Option.bind_some, listed] at drawn
    exact Option.some_inj.mp drawn
  rw [same] at reached
  exact (reached (by decide +kernel)).mpr (by decide +kernel)

def loadingClass : String :=
  "class \x7b static load() \x7b\x7d load() \x7b\x7d \x7d"

/-- The class keeps its methods apart. In its object the later one is found and the earlier one is
not. -/
theorem loadingClass_overridden :
    ∃ object a b, ofClass loadingClass "onCreate" = .ok object ∧
      outlines? loadingClass = some [a, b] ∧ a.KeptApart b ∧
      properties? object = some [⟨.plain, word "load"⟩, ⟨.plain, word "load"⟩] ∧
      ¬ Reached [⟨.plain, word "load"⟩, ⟨.plain, word "load"⟩] 0 := by
  refine ⟨"\x7b\n\tload() \x7b\x7d,\n\tload() \x7b\x7d\n\x7d", ⟨.plain, true, word "load"⟩,
    ⟨.plain, false, word "load"⟩, by decide +kernel, by decide +kernel, by decide,
    by decide +kernel, ?_⟩
  intro reached
  have found := reached _ rfl _ rfl
  revert found
  decide

end Behavior

end TemplateWiring
