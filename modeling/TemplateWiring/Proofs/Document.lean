import Mathlib.Data.List.Nodup
import Mathlib.Data.List.Perm.Subperm
import TemplateWiring.Document
import TemplateWiring.Proofs.Text.Parts

namespace TemplateWiring.Document

theorem pooled_iff {constants : List Constant} {name : String} :
    pooled constants name = true ↔ ∃ c ∈ constants, c.name = name := by
  simp [pooled, List.any_eq_true]

theorem numbered_injective (name : String) : Function.Injective (numbered name) := by
  intro i k same
  exact Text.eq_of_append_toString same

theorem length_le_of_pooled {constants : List Constant} {names : List String}
    (distinct : names.Nodup) (taken : ∀ name ∈ names, pooled constants name = true) :
    names.length ≤ constants.length := by
  have inside : names ⊆ constants.map (·.name) := by
    intro name member
    obtain ⟨c, listed, same⟩ := pooled_iff.mp (taken name member)
    exact List.mem_map.mpr ⟨c, listed, same⟩
  have fewer := (distinct.subperm inside).length_le
  rwa [List.length_map] at fewer

theorem exists_free (constants : List Constant) (name : String) :
    ∃ k ∈ List.range' 1 (constants.length + 1), pooled constants (numbered name k) = false := by
  by_contra full
  have taken : ∀ candidate ∈ (List.range' 1 (constants.length + 1)).map (numbered name),
      pooled constants candidate = true := by
    intro candidate member
    obtain ⟨k, tried, rfl⟩ := List.mem_map.mp member
    cases found : pooled constants (numbered name k) with
    | true => rfl
    | false => exact absurd ⟨k, tried, found⟩ full
  have distinct : ((List.range' 1 (constants.length + 1)).map (numbered name)).Nodup :=
    (List.nodup_range' 1).map (numbered_injective name)
  have fewer := length_le_of_pooled distinct taken
  rw [List.length_map, List.length_range'] at fewer
  omega

/-- A fresh name is the name that is asked for, where no constant has it, or else carries the least
number that makes it free. -/
theorem freshName_cases (constants : List Constant) (name : String) :
    pooled constants name = false ∧ freshName constants name = name ∨
      pooled constants name = true ∧ ∃ k, 1 ≤ k ∧ freshName constants name = numbered name k ∧
        pooled constants (numbered name k) = false ∧
        ∀ i, 1 ≤ i → i < k → pooled constants (numbered name i) = true := by
  cases asked : pooled constants name with
  | false => exact .inl ⟨rfl, by simp [freshName, asked]⟩
  | true =>
      cases search : (List.range' 1 (constants.length + 1)).find?
          (fun k => !pooled constants (numbered name k)) with
      | none =>
          obtain ⟨k, tried, free⟩ := exists_free constants name
          have taken := List.find?_eq_none.mp search k tried
          simp [free] at taken
      | some k =>
          obtain ⟨free, tried, taken⟩ := List.find?_range'_eq_some.mp search
          have first := (List.mem_range'_1.mp tried).1
          refine .inr ⟨rfl, k, first, ?_, by simpa using free, ?_⟩
          · simp [freshName, asked, search]
          · intro i positive earlier
            simpa using taken i positive earlier

theorem pooled_freshName (constants : List Constant) (name : String) :
    pooled constants (freshName constants name) = false := by
  rcases freshName_cases constants name with ⟨free, same⟩ | ⟨-, k, -, same, free, -⟩
  · rw [same, free]
  · rw [same, free]

end TemplateWiring.Document
