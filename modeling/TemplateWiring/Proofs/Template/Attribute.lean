import TemplateWiring.Template.Attribute

namespace TemplateWiring.Attr

/-- A value is written under a name: at the first attribute of that name, which keeps its place, or
else at the end. -/
inductive Written (name : String) (value : AttrValue) : List Attr → List Attr → Prop
  | replaced (front back : List Attr) (old : AttrValue) (first : has front name = false) :
      Written name value (front ++ ⟨name, old⟩ :: back) (front ++ ⟨name, value⟩ :: back)
  | added (attrs : List Attr) (absent : has attrs name = false) :
      Written name value attrs (attrs ++ [⟨name, value⟩])

variable {name other : String} {attrs : List Attr}

theorem has_cons (a : Attr) (attrs : List Attr) (name : String) :
    has (a :: attrs) name = (a.name == name || has attrs name) := rfl

theorem written_set (attrs : List Attr) (name : String) (value : AttrValue) :
    Written name value attrs (set attrs name value) := by
  induction attrs with
  | nil => exact .added [] rfl
  | cons a rest ih =>
      rw [set]
      by_cases same : a.name = name
      · rw [if_pos same]
        subst name
        exact .replaced [] rest a.value rfl
      · rw [if_neg same]
        have differs : (a.name == name) = false := by simpa using same
        generalize set rest name value = after at ih
        cases ih with
        | replaced front back old first =>
            exact .replaced (a :: front) back old (by rw [has_cons, differs, first]; rfl)
        | added _ absent => exact .added (a :: rest) (by rw [has_cons, differs, absent]; rfl)

theorem set_absent (value : AttrValue) (absent : has attrs name = false) :
    set attrs name value = attrs ++ [⟨name, value⟩] := by
  induction attrs with
  | nil => rfl
  | cons a rest ih =>
      rw [has_cons, Bool.or_eq_false_iff] at absent
      have differs : a.name ≠ name := by simpa using absent.1
      rw [set, if_neg differs, ih absent.2, List.cons_append]

theorem has_set_ne (value : AttrValue) (ne : name ≠ other) :
    has (set attrs name value) other = has attrs other := by
  induction attrs with
  | nil => simp [set, has, ne]
  | cons a rest ih =>
      rw [set]
      split
      · rfl
      · rw [has_cons, has_cons, ih]

theorem lookup_isSome (attrs : List Attr) (name : String) :
    (lookup? attrs name).isSome = has attrs name := by
  rw [lookup?, has, Option.isSome_map, List.isSome_find?]

theorem lookup_set (attrs : List Attr) (name : String) (value : AttrValue) :
    lookup? (set attrs name value) name = some value := by
  induction attrs with
  | nil => simp [set, lookup?]
  | cons a rest ih =>
      rw [set]
      by_cases same : a.name = name
      · simp [lookup?, same]
      · simpa [lookup?, same] using ih

theorem lookup_set_ne (attrs : List Attr) (value : AttrValue) (ne : name ≠ other) :
    lookup? (set attrs name value) other = lookup? attrs other := by
  induction attrs with
  | nil => simp [set, lookup?, ne]
  | cons a rest ih =>
      rw [set]
      by_cases same : a.name = name
      · simp [lookup?, same, ne]
      · rw [if_neg same]
        by_cases found : a.name = other
        · simp [lookup?, found]
        · simpa [lookup?, found] using ih

theorem set_of_lookup {value : AttrValue} (held : lookup? attrs name = some value) :
    set attrs name value = attrs := by
  induction attrs with
  | nil => cases held
  | cons a rest ih =>
      rw [set]
      by_cases same : a.name = name
      · have own : a.value = value := by simpa [lookup?, same] using held
        rw [if_pos same, ← own]
      · have later : lookup? rest name = some value := by simpa [lookup?, same] using held
        rw [if_neg same, ih later]

end TemplateWiring.Attr
