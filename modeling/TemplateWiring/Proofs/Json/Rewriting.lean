import TemplateWiring.Proofs.Json.Reading

/-! Values that are written in another way: the members of an object in another order, and a field
that was left out with the value that it has then. A value stays readable as a whole, or can still
be passed over, and is nested no less. -/

namespace TemplateWiring.Json

structure Layout.Field (φ : Type) where
  name : String
  form : φ
  default? : Option Json := none

/-- How values are laid out that have some form. A record is an object, or the list of its fields
in order. -/
structure Layout (φ : Type) where
  plain : φ
  fields : φ → Reading → List (Layout.Field φ)
  item : φ → φ
  fields_plain : ∀ r, fields plain r = []
  item_plain : item plain = plain

namespace Layout

variable {φ : Type} (layout : Layout φ)

def field? (form : φ) (r : Reading) (name : String) : Option (Field φ) :=
  (layout.fields form r).find? (·.name == name)

theorem field?_plain (r : Reading) (name : String) : layout.field? layout.plain r name = none := by
  rw [field?, layout.fields_plain, List.find?_nil]

def formOfMember (form : φ) (r : Reading) : Key → φ
  | .name name =>
    match layout.field? form r name with
    | some f => f.form
    | none => layout.plain
  | .unreadable _ => layout.plain

def formOfItem (form : φ) (r : Reading) (i : Nat) : φ :=
  match (layout.fields form r)[i]? with
  | some f => f.form
  | none => layout.item form

/-- One change to the way in which a value of a form is written. -/
inductive Step : φ → Reading → Reading → Prop
  | reorder {form : φ} {ms ms' : List (Key × Reading)} {stop : Option Stop} (perm : ms.Perm ms') :
      Step form (.object ms stop) (.object ms' stop)
  | fill {form : φ} {ms : List (Key × Reading)} {stop : Option Stop} {f : Field φ} {value : Json}
      (known : layout.field? form (.object ms stop) f.name = some f)
      (default : f.default? = some value) (absent : ∀ m ∈ ms, m.1 ≠ .name f.name) :
      Step form (.object ms stop) (.object ((.name f.name, .ofJson value) :: ms) stop)
  | extend {form : φ} {items : List Reading} {stop : Option Stop} {f : Field φ} {value : Json}
      (next : (layout.fields form (.list items stop))[items.length]? = some f)
      (default : f.default? = some value) :
      Step form (.list items stop) (.list (items ++ [.ofJson value]) stop)
  | member {form : φ} {before after : List (Key × Reading)} {key : Key} {r r' : Reading}
      {stop : Option Stop}
      (inner : Step (layout.formOfMember form (.object (before ++ (key, r) :: after) stop) key)
        r r') :
      Step form (.object (before ++ (key, r) :: after) stop)
        (.object (before ++ (key, r') :: after) stop)
  | item {form : φ} {before after : List Reading} {r r' : Reading} {stop : Option Stop}
      (inner : Step (layout.formOfItem form (.list (before ++ r :: after) stop) before.length)
        r r') :
      Step form (.list (before ++ r :: after) stop) (.list (before ++ r' :: after) stop)

end Layout

namespace Layout.Step

variable {φ : Type} {layout : Layout φ} {form : φ} {r r' : Reading}

theorem collection (step : layout.Step form r r') : 1 ≤ r.depth := by
  cases step <;> exact Nat.succ_le_succ (Nat.zero_le _)

theorem sound {strict : Bool} (step : layout.Step form r r') (whole : r.Sound strict) :
    r'.Sound strict := by
  induction step with
  | reorder perm =>
      obtain ⟨ended, named, each⟩ := Reading.sound_object.mp whole
      exact Reading.sound_object.mpr ⟨ended, fun strict m member =>
        named strict m (perm.mem_iff.mpr member), fun m member => each m (perm.mem_iff.mpr member)⟩
  | @fill form ms stop f value =>
      obtain ⟨ended, named, each⟩ := Reading.sound_object.mp whole
      exact Reading.sound_object.mpr ⟨ended,
        fun strict => List.forall_mem_cons.mpr ⟨⟨f.name, rfl⟩, named strict⟩,
        List.forall_mem_cons.mpr ⟨Reading.sound_ofJson strict value, each⟩⟩
  | @extend form items stop f value =>
      obtain ⟨ended, each⟩ := Reading.sound_list.mp whole
      exact Reading.sound_list.mpr ⟨ended, List.forall_mem_append.mpr
        ⟨each, List.forall_mem_singleton.mpr (Reading.sound_ofJson strict value)⟩⟩
  | member _ ih =>
      obtain ⟨ended, named, each⟩ := Reading.sound_object.mp whole
      rw [List.forall_mem_append, List.forall_mem_cons] at each
      simp only [List.forall_mem_append, List.forall_mem_cons] at named
      refine Reading.sound_object.mpr ⟨ended, ?_, ?_⟩
      · simpa only [List.forall_mem_append, List.forall_mem_cons] using named
      · rw [List.forall_mem_append, List.forall_mem_cons]
        exact ⟨each.1, ih each.2.1, each.2.2⟩
  | item _ ih =>
      obtain ⟨ended, each⟩ := Reading.sound_list.mp whole
      rw [List.forall_mem_append, List.forall_mem_cons] at each
      refine Reading.sound_list.mpr ⟨ended, ?_⟩
      rw [List.forall_mem_append, List.forall_mem_cons]
      exact ⟨each.1, ih each.2.1, each.2.2⟩

theorem depth_le (step : layout.Step form r r') : r.depth ≤ r'.depth := by
  induction step with
  | reorder perm =>
      refine Reading.depth_le_depth (Nat.succ_pos _) fun x member => ?_
      exact ⟨x, (perm.map _).mem_iff.mp member, Nat.le_refl _⟩
  | fill =>
      refine Reading.depth_le_depth (Nat.succ_pos _) fun x member => ?_
      exact ⟨x, List.mem_cons_of_mem _ member, Nat.le_refl _⟩
  | extend =>
      refine Reading.depth_le_depth (Nat.succ_pos _) fun x member => ?_
      exact ⟨x, List.mem_append_left _ member, Nat.le_refl _⟩
  | @member form before after key r r' stop _ ih =>
      refine Reading.depth_le_depth (Nat.succ_pos _) fun x member => ?_
      simp only [Reading.parts, List.map_append, List.map_cons, List.mem_append, List.mem_cons]
        at member ⊢
      rcases member with earlier | rfl | later
      · exact ⟨x, .inl earlier, Nat.le_refl _⟩
      · exact ⟨r', .inr (.inl rfl), ih⟩
      · exact ⟨x, .inr (.inr later), Nat.le_refl _⟩
  | @item form before after r r' stop _ ih =>
      refine Reading.depth_le_depth (Nat.succ_pos _) fun x member => ?_
      simp only [Reading.parts, List.mem_append, List.mem_cons] at member ⊢
      rcases member with earlier | rfl | later
      · exact ⟨x, .inl earlier, Nat.le_refl _⟩
      · exact ⟨r', .inr (.inl rfl), ih⟩
      · exact ⟨x, .inr (.inr later), Nat.le_refl _⟩

variable {source : Source}

theorem readWhole (step : layout.Step form r r') (admits : source.Admits r'.depth)
    (read : source.readWhole r = .ok ()) : source.readWhole r' = .ok () := by
  cases source with
  | held => rfl
  | reading room =>
      have whole := (Reading.problem?_eq_none.mp (failing_ok read)).1
      exact Source.readWhole_sound (step.sound whole) admits

theorem skip (step : layout.Step form r r') (passed : source.skip r = .ok ()) :
    source.skip r' = .ok () := by
  cases source with
  | held => rfl
  | reading room =>
      have whole := Reading.skipProblem?_eq_none.mp (failing_ok passed)
      have still := Reading.skipProblem?_eq_none.mpr (step.sound whole)
      rw [Source.skip, still, failing]

end Layout.Step

end TemplateWiring.Json
